import DialogueMarkup.Proofs.JsonReading
import DialogueMarkup.Proofs.Tiers
import DialogueMarkup.Proofs.Utf8

/-! Settings files that cannot be read. A user's or project's file whose text is no document is
passed over with a remark, and what is loaded is what an empty object would give. The octets of no
text, numbers of too many digits and nesting that is too deep are faults of another kind: in these
files, too, they end the loading. -/
namespace DialogueMarkup
open Document Files Text

/-! What octets can be. -/

namespace Document
variable {depth : Nat} {octets : List UInt8} {fault : DataFault}

theorem readJson_encode (depth : Nat) (s : List Char) :
    readJson depth (Utf8.encode s) = Json.parse (unifyBreaks s) depth := by
  rw [readJson, readText_encode]
  rfl

theorem refuses_of_readJson (h : readJson depth octets = .error fault) :
    fault = .noText ∨ Json.Refuses fault := by
  rw [readJson] at h
  cases htext : readText octets with
  | error cause =>
    rw [htext] at h
    cases h
    exact .inl (readText_eq_error htext)
  | ok s =>
    rw [htext] at h
    exact .inr (Json.refuses_of_parse h)

/-- Octets of a text that is a document, or is none because its characters do not stand in the
order of a document. -/
def Tolerable (depth : Nat) (octets : List UInt8) : Prop :=
  ∃ s, octets = Utf8.encode s ∧
    ((∃ v, Json.parse (unifyBreaks s) depth = .ok v) ∨
      Json.parse (unifyBreaks s) depth = .error .noDocument)

theorem tolerable_iff : Tolerable depth octets ↔
    (∃ v, readJson depth octets = .ok v) ∨ readJson depth octets = .error .noDocument := by
  constructor
  · rintro ⟨s, rfl, h⟩
    rwa [readJson_encode]
  · intro h
    cases htext : readText octets with
    | error fault =>
      rw [readJson, htext] at h
      rcases h with ⟨v, hv⟩ | hnone
      · cases hv
      · cases hnone
        cases readText_eq_error htext
    | ok _ =>
      obtain ⟨s, rfl, -⟩ := readText_eq_ok_iff.mp htext
      rw [readJson_encode] at h
      exact ⟨s, rfl, h⟩

/-- Octets that are not tolerable are those of no text, or of a text with too many digits or too
many levels. -/
theorem readJson_of_not_tolerable (h : ¬Tolerable depth octets) :
    ∃ fault, readJson depth octets = .error fault ∧
      (fault = .noText ∨ fault = .tooDeep ∨ ∃ cause, fault = .numeral cause) := by
  rw [tolerable_iff, not_or] at h
  obtain ⟨hdocument, hnone⟩ := h
  cases hread : readJson depth octets with
  | ok v => exact (hdocument ⟨v, hread⟩).elim
  | error fault =>
    refine ⟨fault, rfl, ?_⟩
    rcases refuses_of_readJson hread with htext | hrefuses
    · exact .inl htext
    · cases hrefuses with
      | noDocument => exact (hnone hread).elim
      | tooDeep => exact .inr (.inl rfl)
      | numeral cause => exact .inr (.inr ⟨cause, rfl⟩)

theorem unifyBreaks_replicate (m : Nat) (s : List Char) :
    unifyBreaks (List.replicate m '[' ++ s) = List.replicate m '[' ++ unifyBreaks s := by
  induction m with
  | zero => rfl
  | succ m ih =>
    rw [List.replicate_succ, List.cons_append, unifyBreaks]
    · rw [ih]
      rfl
    · exact fun _ h => absurd h (by decide)

theorem readJson_nest {m : Nat} (h : depth < m) (s : List Char) :
    readJson depth (Utf8.encode (List.replicate m '[' ++ s)) = .error .tooDeep := by
  rw [readJson_encode, unifyBreaks_replicate]
  exact Json.parse_nest h _

theorem not_tolerable_nest {m : Nat} (s : List Char) (h : depth < m) :
    ¬Tolerable depth (Utf8.encode (List.replicate m '[' ++ s)) := by
  rw [tolerable_iff, readJson_nest h]
  simp

end Document

/-! Files that are passed over. -/

namespace Settings

section
variable {ε α β : Type} {x y : Except ε α} {g h : α → Except ε α} {k : α → β}

/-- Of two chains of computations only what one looks at need agree. -/
theorem map_bind_congr (hxy : x.map k = y.map k)
    (hgh : ∀ a b, k a = k b → (g a).map k = (h b).map k) :
    (x >>= g).map k = (y >>= h).map k := by
  cases x with
  | error e =>
    cases y with
    | error e' =>
      cases hxy
      rfl
    | ok b => cases hxy
  | ok a =>
    cases y with
    | error e' => cases hxy
    | ok b => exact hgh a b (Except.ok.inj hxy)

end

/-- The text of the file at a path is no document. -/
def holdsNoDocument (depth : Nat) (t : Tree) (p : Path) : Bool :=
  (t.read [] p).toOption.any fun octets =>
    match readJson depth octets with
    | .error .noDocument => true
    | _ => false

/-- A file is the same in two trees, or else it holds no document in the first and the empty object
in the second. -/
def SameOrEmptied (depth : Nat) (t t' : Tree) (p : Path) : Prop :=
  t'.read [] p = t.read [] p ∨
    holdsNoDocument depth t p ∧
      ∃ octets, t'.read [] p = .ok octets ∧ readJson depth octets = .ok (.object [])

/-- The files in which the settings of a user or a project may stand. -/
def backgroundFiles (folder : Location) (user : Path) : List Path :=
  user :: (projectPlaces searchDepth folder).map Path.ofPlace

section
variable {depth : Nat} {t t' : Tree} {p : Path}

theorem exists_of_holdsNoDocument (h : holdsNoDocument depth t p) :
    ∃ octets, t.read [] p = .ok octets ∧ readJson depth octets = .error .noDocument := by
  rw [holdsNoDocument] at h
  cases hread : t.read [] p with
  | error fault =>
    rw [hread] at h
    cases h
  | ok octets =>
    rw [hread] at h
    refine ⟨octets, rfl, ?_⟩
    change (match readJson depth octets with
      | .error .noDocument => true
      | _ => false) = true at h
    split at h
    · next hjson => exact hjson
    · cases h

theorem SameOrEmptied.hasFile_eq (h : SameOrEmptied depth t t' p) :
    t'.hasFile [] p = t.hasFile [] p := by
  rcases h with h | ⟨hnone, octets', hread', -⟩
  · rw [Tree.hasFile, Tree.hasFile, h]
  · obtain ⟨octets, hread, -⟩ := exists_of_holdsNoDocument hnone
    rw [Tree.hasFile, Tree.hasFile, hread, hread']

theorem SameOrEmptied.fields_eq (h : SameOrEmptied depth t t' p) :
    (backgroundFields depth t' p).map (·.getD []) =
      (backgroundFields depth t p).map (·.getD []) := by
  rcases h with h | ⟨hnone, octets', hread', hjson'⟩
  · rw [backgroundFields, backgroundFields, h]
  · obtain ⟨octets, hread, hjson⟩ := exists_of_holdsNoDocument hnone
    rw [backgroundFields, backgroundFields, hread, hread']
    simp only [hjson, hjson']
    rfl

/-- What is taken over is told by the fields alone, whether or not there is a remark. -/
theorem settings_applyBackground (depth : Nat) (r : Resolved) (t : Tree) (p : Path) :
    (applyBackground depth r t p).map (·.settings) =
      ((backgroundFields depth t p).map (·.getD [])).bind r.settings.applied := by
  rw [applyBackground]
  cases backgroundFields depth t p with
  | error fault => rfl
  | ok fields? =>
    cases fields? with
    | none => rfl
    | some fields =>
      change (do
        let s ← r.settings.applied fields
        pure { r with settings := s } : Except DataFault Resolved).map (·.settings) =
          r.settings.applied fields
      cases r.settings.applied fields <;> rfl

variable {n : Nesting} {r r' : Resolved} {folder : Location} {user : Path}
  {explicit : Option Path}

theorem SameOrEmptied.applyBackground_congr (h : SameOrEmptied depth t t' p)
    (hr : r'.settings = r.settings) :
    (applyBackground depth r' t' p).map (·.settings) =
      (applyBackground depth r t p).map (·.settings) := by
  rw [settings_applyBackground, settings_applyBackground, h.fields_eq, hr]

theorem map_mapError {ε ε' α β : Type} (x : Except ε α) (f : ε → ε') (k : α → β) :
    (x.mapError f).map k = (x.map k).mapError f := by
  cases x <;> rfl

theorem SameOrEmptied.applyUser_congr (h : SameOrEmptied depth t t' user) :
    (applyUser depth t' user).map (·.settings) = (applyUser depth t user).map (·.settings) := by
  rw [applyUser, applyUser, h.hasFile_eq]
  cases t.hasFile [] user with
  | error fault => rfl
  | ok b =>
    cases b with
    | false => rfl
    | true =>
      refine map_bind_congr ?_ fun _ _ h => congrArg Except.ok h
      rw [map_mapError, map_mapError, h.applyBackground_congr rfl]

theorem findM?_congr {ε α : Type} {f g : α → Except ε Bool} {l : List α}
    (h : ∀ a ∈ l, f a = g a) : l.findM? f = l.findM? g := by
  induction l with
  | nil => rfl
  | cons a l ih =>
    rw [List.findM?, List.findM?, h a List.mem_cons_self,
      ih fun b hb => h b (List.mem_cons_of_mem a hb)]

/-- The project's file is one of those that are looked for. -/
theorem mem_of_findProject_eq_ok (h : findProject t folder = .ok (some p)) :
    p ∈ (projectPlaces searchDepth folder).map Path.ofPlace := by
  have hfind := findM?_eq_ok (fun _ _ => isThere_of_hasFile) h
  exact List.mem_of_find?_eq_some hfind.symm

theorem applyProject_congr
    (h : ∀ p ∈ (projectPlaces searchDepth folder).map Path.ofPlace, SameOrEmptied depth t t' p)
    (hr : r'.settings = r.settings) :
    (applyProject depth r' t' folder).map (·.settings) =
      (applyProject depth r t folder).map (·.settings) := by
  have hfind : findProject t' folder = findProject t folder :=
    findM?_congr fun p hp => (h p hp).hasFile_eq
  rw [applyProject, applyProject, hfind]
  cases hproject : findProject t folder with
  | error fault => rfl
  | ok path? =>
    cases path? with
    | none => exact congrArg Except.ok hr
    | some p =>
      refine map_bind_congr ?_ fun _ _ h => congrArg Except.ok h
      rw [map_mapError, map_mapError,
        (h p (mem_of_findProject_eq_ok hproject)).applyBackground_congr hr]

theorem applyExplicit_congr (h : t'.read folder p = t.read folder p)
    (hr : r'.settings = r.settings) :
    (applyExplicit n r' t' folder p).map (·.settings) =
      (applyExplicit n r t folder p).map (·.settings) := by
  have hmap {α : Type} (x : Except LoadFault α) (f : α → Except LoadFault Resolved) :
      (x >>= f).map (·.settings) = x >>= fun a => (f a).map (·.settings) := by
    cases x <;> rfl
  rw [applyExplicit, applyExplicit, h, hr]
  simp only [hmap]
  rfl

theorem load_congr
    (background : ∀ p ∈ backgroundFiles folder user, SameOrEmptied n.json t t' p)
    (asked : ∀ p ∈ explicit, t'.read folder p = t.read folder p) :
    (load t' folder user explicit n).map (·.settings) =
      (load t folder user explicit n).map (·.settings) := by
  obtain ⟨huser, hproject⟩ := List.forall_mem_cons.mp background
  rw [load, load]
  refine map_bind_congr huser.applyUser_congr fun r₁ r₁' h₁ => ?_
  refine map_bind_congr (applyProject_congr hproject h₁) fun r₂ r₂' h₂ => ?_
  cases explicit with
  | none => exact congrArg Except.ok h₂
  | some p => exact applyExplicit_congr (asked p rfl) h₂

/-! Remarks. -/

/-- Of a file that is there, no fields are taken when no document stands in it. -/
theorem holdsNoDocument_eq_isNone (hthere : isThere t p = true)
    {fields? : Option (List (Document × Document))}
    (h : backgroundFields depth t p = .ok fields?) :
    holdsNoDocument depth t p = fields?.isNone := by
  rw [isThere] at hthere
  rw [backgroundFields] at h
  rw [holdsNoDocument]
  cases hread : t.read [] p with
  | error fault =>
    rw [hread] at hthere
    cases hthere
  | ok octets =>
    rw [hread] at h
    dsimp only at h
    change (match readJson depth octets with
      | .error .noDocument => true
      | _ => false) = _
    split at h
    · next hjson =>
      cases h
      rw [hjson]
      rfl
    · next hjson =>
      cases h
      rw [hjson]
      rfl
    · cases h

theorem unreadable_of_applyBackground (h : applyBackground depth r t p = .ok r')
    (hthere : isThere t p = true) :
    r'.unreadable = r.unreadable ++ [p].filter (holdsNoDocument depth t) := by
  rw [applyBackground] at h
  obtain ⟨fields?, hfields, h⟩ := bind_eq_ok h
  rw [List.filter_cons, List.filter_nil, holdsNoDocument_eq_isNone hthere hfields]
  cases fields? with
  | none =>
    cases h
    rfl
  | some fields =>
    obtain ⟨s, -, h⟩ := bind_eq_ok h
    cases h
    exact (List.append_nil _).symm

theorem unreadable_of_applyUser (h : applyUser depth t user = .ok r) :
    r.unreadable = r.user.toList.filter (holdsNoDocument depth t) := by
  rw [applyUser] at h
  obtain ⟨b, hb, h⟩ := bind_eq_ok h
  cases b with
  | false =>
    cases h
    rfl
  | true =>
    obtain ⟨r₁, h₁, h⟩ := bind_eq_ok h
    cases h
    have hthere := isThere_of_hasFile (mapError_eq_ok hb)
    have hremark := unreadable_of_applyBackground (mapError_eq_ok h₁) hthere
    exact hremark

theorem unreadable_of_applyProject (h : applyProject depth r t folder = .ok r')
    (hnone : r.project = none) :
    r'.unreadable = r.unreadable ++ r'.project.toList.filter (holdsNoDocument depth t) := by
  rw [applyProject] at h
  obtain ⟨path?, hpath, h⟩ := bind_eq_ok h
  cases path? with
  | none =>
    cases h
    rw [hnone]
    exact (List.append_nil _).symm
  | some path =>
    obtain ⟨r₁, h₁, h⟩ := bind_eq_ok h
    cases h
    have hthere := List.find?_some (findProject_eq_ok (mapError_eq_ok hpath)).symm
    have hremark := unreadable_of_applyBackground (mapError_eq_ok h₁) hthere
    exact hremark

theorem unreadable_of_load (h : load t folder user explicit n = .ok r) :
    r.unreadable = (r.user.toList ++ r.project.toList).filter (holdsNoDocument n.json t) := by
  rw [load] at h
  obtain ⟨r₁, h₁, h⟩ := bind_eq_ok h
  obtain ⟨r₂, h₂, h⟩ := bind_eq_ok h
  obtain ⟨-, -, hnone, -⟩ := applyUser_eq_ok h₁
  obtain ⟨-, -, huser, -⟩ := applyProject_eq_ok h₂ hnone
  have hunreadable : r₂.unreadable =
      (r₂.user.toList ++ r₂.project.toList).filter (holdsNoDocument n.json t) := by
    rw [unreadable_of_applyProject h₂ hnone, unreadable_of_applyUser h₁, huser,
      List.filter_append]
  cases explicit with
  | none =>
    cases h
    exact hunreadable
  | some p =>
    obtain ⟨-, e⟩ := applyExplicit_eq_ok h
    rw [e]
    exact hunreadable

/-! Faults that end the loading. -/

theorem applyBackground_ne_ok {octets : List UInt8} (hread : t.read [] p = .ok octets)
    (h : ¬Tolerable depth octets) : applyBackground depth r t p ≠ .ok r' := by
  obtain ⟨fault, hjson, hfault⟩ := readJson_of_not_tolerable h
  intro happly
  rw [applyBackground, backgroundFields, hread] at happly
  rcases hfault with rfl | rfl | ⟨cause, rfl⟩
  all_goals
    simp only [hjson] at happly
    cases happly

theorem load_ne_ok (hp : p = user ∨ findProject t folder = .ok (some p)) {octets : List UInt8}
    (hread : t.read [] p = .ok octets) (h : ¬Tolerable n.json octets) (r : Resolved) :
    load t folder user explicit n ≠ .ok r := by
  intro hload
  rw [load] at hload
  obtain ⟨r₁, h₁, hload⟩ := bind_eq_ok hload
  obtain ⟨r₂, h₂, -⟩ := bind_eq_ok hload
  -- either tier reads its file in the same way, so neither can have given a result
  rcases hp with rfl | hp
  · have hfile : t.hasFile [] p = .ok true := by rw [Tree.hasFile, hread]
    rw [applyUser, hfile] at h₁
    obtain ⟨_, ⟨⟩, h₁⟩ := bind_eq_ok h₁
    obtain ⟨r, hr, -⟩ := bind_eq_ok h₁
    exact applyBackground_ne_ok hread h (mapError_eq_ok hr)
  · rw [applyProject, hp] at h₂
    obtain ⟨_, ⟨⟩, h₂⟩ := bind_eq_ok h₂
    obtain ⟨r, hr, -⟩ := bind_eq_ok h₂
    exact applyBackground_ne_ok hread h (mapError_eq_ok hr)

end

/-- Files of a user and a project in which no document stands are passed over, each with one
remark, and the settings are those that come of empty objects in their place. All other octets that
are not the text of a document are those of no text, or have too many digits or too many levels; in
such a file they end the loading as they do in a file asked for. A text that opens with more
brackets than may nest is of this kind. -/
theorem load_of_unreadable {t t' : Tree} {folder : Location} {user : Path}
    {explicit : Option Path} {n : Nesting}
    (background : ∀ p ∈ backgroundFiles folder user, SameOrEmptied n.json t t' p)
    (asked : ∀ p ∈ explicit, t'.read folder p = t.read folder p) :
    (load t folder user explicit n).map (·.settings) =
        (load t' folder user explicit n).map (·.settings) ∧
      (∀ r, load t folder user explicit n = .ok r →
        r.unreadable = (r.user.toList ++ r.project.toList).filter (holdsNoDocument n.json t)) ∧
      (∀ p octets, p = user ∨ findProject t folder = .ok (some p) →
        t.read [] p = .ok octets → ¬Tolerable n.json octets →
          (∃ fault, readJson n.json octets = .error fault ∧
            (fault = .noText ∨ fault = .tooDeep ∨ ∃ cause, fault = .numeral cause)) ∧
          ∀ r, load t folder user explicit n ≠ .ok r) ∧
      ∀ m s, n.json < m → ¬Tolerable n.json (Utf8.encode (List.replicate m '[' ++ s)) := by
  refine ⟨(load_congr background asked).symm, fun r => unreadable_of_load, ?_,
    fun m s => not_tolerable_nest s⟩
  intro p octets hp hread h
  exact ⟨readJson_of_not_tolerable h, load_ne_ok hp hread h⟩

/-- A user's and a project's file with the given octets. -/
def twoTiers (ofUser ofProject : List UInt8) : Tree := ⟨[
  (userFile.components, .file ofUser),
  (["play".toList, projectFileName], .file ofProject)]⟩

theorem load_of_unreadable_unfinished :
    ∃ r, load (twoTiers (Utf8.encode "max_passes: 3".toList) (Utf8.encode "\x7b".toList))
        ["play".toList] userFile none = .ok r ∧
      r.settings = {} ∧
      r.unreadable = [userFile, ⟨['/'], ["play".toList, projectFileName]⟩] := by
  let unfinished := twoTiers (Utf8.encode "max_passes: 3".toList) (Utf8.encode "\x7b".toList)
  let brackets := Utf8.encode "\x7b\x7d".toList
  have hempty : readJson Json.usualDepth brackets = .ok (.object []) := rfl
  have hbackground : ∀ p ∈ backgroundFiles ["play".toList] userFile,
      SameOrEmptied Json.usualDepth unfinished (twoTiers brackets brackets) p := by
    intro p hp
    change p ∈ [userFile, .ofPlace ["play".toList, projectFileName],
      .ofPlace [projectFileName]] at hp
    simp only [List.mem_cons, List.not_mem_nil, or_false] at hp
    rcases hp with rfl | rfl | rfl
    · exact .inr ⟨by decide +kernel, brackets, rfl, hempty⟩
    · exact .inr ⟨by decide +kernel, brackets, rfl, hempty⟩
    · exact .inl rfl
  have hasked : ∀ p ∈ (none : Option Path), (twoTiers brackets brackets).read ["play".toList] p =
      unfinished.read ["play".toList] p := nofun
  obtain ⟨hsame, hremarks, -⟩ := load_of_unreadable (n := {}) hbackground hasked
  have hplain : (load (twoTiers brackets brackets) ["play".toList] userFile none).map
      (·.settings) = .ok {} := rfl
  obtain ⟨r, hload, hsettings⟩ := map_eq_ok (hsame.trans hplain)
  have hfound : (load unfinished ["play".toList] userFile none).toOption.map
      (fun r => r.user.toList ++ r.project.toList) =
        some [userFile, ⟨['/'], ["play".toList, projectFileName]⟩] := by decide +kernel
  rw [hload] at hfound
  have hfiles : r.user.toList ++ r.project.toList =
      [userFile, ⟨['/'], ["play".toList, projectFileName]⟩] := Option.some.inj hfound
  refine ⟨r, hload, hsettings, ?_⟩
  rw [hremarks r hload, hfiles]
  decide +kernel

/-- Octets of no text in the file of a project end the loading. -/
theorem not_load_of_unreadable :
    ¬∀ octets, (∀ v, readJson Json.usualDepth octets ≠ .ok v) →
      (load (twoTiers (Utf8.encode "\x7b\x7d".toList) octets) ["play".toList] userFile none).map
          (·.settings) =
        (load (twoTiers (Utf8.encode "\x7b\x7d".toList) (Utf8.encode "\x7b\x7d".toList))
          ["play".toList] userFile none).map (·.settings) := by
  intro h
  have hread : readJson Json.usualDepth [0xFF] = .error .noText := rfl
  have hsame := h [0xFF] fun v hv => by rw [hread] at hv; cases hv
  cases hsame

end Settings
end DialogueMarkup
