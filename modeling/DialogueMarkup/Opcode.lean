import DialogueMarkup.Text.CaseClass

/-!
The seven opcodes of directives. `ON` and `OFF` test a switch, `OV` compares variables, `OPS` and
`OPC` the size of the party and of its core, `OPL` and `OPM` an attribute of the leader or of any
member.
-/
namespace DialogueMarkup

inductive Opcode
  | on | off | ov | ops | opc | opl | opm
  deriving DecidableEq, Repr

namespace Opcode
open Text

def all : List Opcode := [on, off, ov, ops, opc, opl, opm]

def alphabetical : List Opcode := [off, on, opc, opl, opm, ops, ov]

def name : Opcode → List Char
  | on => ['O', 'N']
  | off => ['O', 'F', 'F']
  | ov => ['O', 'V']
  | ops => ['O', 'P', 'S']
  | opc => ['O', 'P', 'C']
  | opl => ['O', 'P', 'L']
  | opm => ['O', 'P', 'M']

def ofName? (s : List Char) : Option Opcode := all.find? fun op => op.name == upper s

/-- Splits off an opcode: how it is spelled, which one it is, and what follows. -/
def read (s : List Char) : Option ((List Char × Opcode) × List Char) :=
  all.findSome? fun op => (readWord op.name s).map fun r => ((r.1, op), r.2)

theorem read_eq_some {s spelling rest : List Char} {op : Opcode}
    (h : read s = some ((spelling, op), rest)) :
    s = spelling ++ rest ∧ spelling.length = op.name.length := by
  obtain ⟨op', _, h⟩ := List.exists_of_findSome?_eq_some h
  obtain ⟨⟨t, r⟩, ht, he⟩ := Option.map_eq_some_iff.1 h
  simp only [Prod.mk.injEq] at he
  obtain ⟨⟨rfl, rfl⟩, rfl⟩ := he
  exact readWord_eq_some ht

end Opcode
end DialogueMarkup
