import DialogueMarkup.Proofs.Pieces
import DialogueMarkup.Settings.Tiers

/-! Settings that are loaded from files. The tiers are taken over one after the other, each into
what the tiers before it have left; what comes out is that every field has its value from the first
of the tiers that names it, the file asked for first and the user's last. -/
namespace DialogueMarkup.Settings
open Document Files Text

/-! One tier. -/

/-- Settings taken over from others: a field for which there is a value holds that value, any other
is as it was. -/
structure Takes (value? : List Char → Option Document) (s s' : Settings) : Prop where
  escape : (value? "escape_char".toList).elim (s'.escape = s.escape) fun v =>
    v.display = [s'.escape]
  maxPasses : (value? "max_passes".toList).elim (s'.maxPasses = s.maxPasses) fun v =>
    v.toInt? = .ok s'.maxPasses
  grammar : (value? "grammar".toList).elim (s'.grammar = s.grammar) fun v =>
    s'.grammar = v.truth

section
variable {s s' : Settings} {fields : List (Document × Document)}

theorem applyEscape_eq_ok_iff : s.applyEscape fields = .ok s' ↔
    (fieldOf? fields "escape_char".toList).elim (s'.escape = s.escape)
      (fun v => v.display = [s'.escape]) ∧ s' = { s with escape := s'.escape } := by
  rw [applyEscape]
  cases fieldOf? fields "escape_char".toList with
  | none =>
    constructor
    · rintro ⟨⟩
      exact ⟨rfl, rfl⟩
    · rintro ⟨hsame, heq⟩
      rw [heq, show s'.escape = s.escape from hsame]
  | some v =>
    simp only [Option.elim_some]
    constructor
    · intro h
      split at h
      · next c hc =>
        cases h
        exact ⟨hc, rfl⟩
      · cases h
    · rintro ⟨hone, heq⟩
      rw [hone]
      exact congrArg Except.ok heq.symm

theorem applyMaxPasses_eq_ok (h : s.applyMaxPasses fields = .ok s') :
    (fieldOf? fields "max_passes".toList).elim (s'.maxPasses = s.maxPasses)
      (fun v => v.toInt? = .ok s'.maxPasses) ∧ s' = { s with maxPasses := s'.maxPasses } := by
  rw [applyMaxPasses] at h
  cases hv : fieldOf? fields "max_passes".toList with
  | none =>
    rw [hv] at h
    cases h
    exact ⟨rfl, rfl⟩
  | some v =>
    simp only [hv] at h
    obtain ⟨n, hn, rfl⟩ := map_eq_ok h
    exact ⟨hn, rfl⟩

theorem applyGrammar_eq (s : Settings) (fields : List (Document × Document)) :
    s.applyGrammar fields =
      { s with grammar := (fieldOf? fields "grammar".toList).elim s.grammar truth } := by
  rw [applyGrammar]
  cases fieldOf? fields "grammar".toList <;> rfl

/-- The fields are taken over one after the other. -/
theorem applied_eq_bind (s : Settings) (fields : List (Document × Document)) :
    s.applied fields = do
      let s ← s.applyEscape fields
      let s ← s.applyMaxPasses fields
      return s.applyGrammar fields := by
  rw [applied, apply]
  cases s.applyEscape fields with
  | error fault => rfl
  | ok s =>
    simp only [bind, Except.bind]
    cases s.applyMaxPasses fields <;> rfl

/-- Fields that can be taken over are. -/
theorem takes_of_applied (h : s.applied fields = .ok s') : Takes (fieldOf? fields) s s' := by
  rw [applied_eq_bind] at h
  obtain ⟨s₁, h₁, h⟩ := bind_eq_ok h
  obtain ⟨s₂, h₂, h⟩ := bind_eq_ok h
  obtain ⟨hescape, e₁⟩ := applyEscape_eq_ok_iff.mp h₁
  obtain ⟨hmax, e₂⟩ := applyMaxPasses_eq_ok h₂
  rw [applyGrammar_eq] at h
  cases h
  rw [e₁] at e₂ hmax
  rw [e₂]
  refine ⟨hescape, hmax, ?_⟩
  cases fieldOf? fields "grammar".toList <;> rfl

end

namespace Takes
variable {f g : List Char → Option Document} {s t u : Settings}

theorem of_none (h : ∀ name, f name = none) : Takes f s s := by
  constructor <;> rw [h] <;> rfl

/-- One tier after another is one tier, in which the later one goes first. -/
theorem trans (hf : Takes f s t) (hg : Takes g t u) :
    Takes (fun name => (g name).or (f name)) s u := by
  constructor
  · have h := hf.escape
    have h' := hg.escape
    cases hv : g "escape_char".toList <;> simp_all
  · have h := hf.maxPasses
    have h' := hg.maxPasses
    cases hv : g "max_passes".toList <;> simp_all
  · have h := hf.grammar
    have h' := hg.grammar
    cases hv : g "grammar".toList <;> simp_all

/-- What settings are that have taken all their values over. -/
theorem eq_of_values {escape : Char} {maxPasses : Option Int} {grammar : Bool} (h : Takes f s t)
    (hescape : (f "escape_char".toList).map display = some [escape])
    (hmaxPasses : (f "max_passes".toList).bind (·.toInt?.toOption) = some maxPasses)
    (hgrammar : (f "grammar".toList).map truth = some grammar) :
    t = ⟨escape, maxPasses, grammar⟩ := by
  obtain ⟨v, hv, hsign⟩ := Option.map_eq_some_iff.mp hescape
  obtain ⟨w, hw, hpasses⟩ := Option.bind_eq_some_iff.mp hmaxPasses
  obtain ⟨b, hb, htruth⟩ := Option.map_eq_some_iff.mp hgrammar
  obtain ⟨hescape', hmaxPasses', hgrammar'⟩ := h
  rw [hv, Option.elim_some, hsign] at hescape'
  rw [hw, Option.elim_some, toOption_eq_some.mp hpasses] at hmaxPasses'
  rw [hb, Option.elim_some, htruth] at hgrammar'
  cases t
  cases hescape'
  cases hmaxPasses'
  cases hgrammar'
  rfl

end Takes

/-! The files of the tiers. -/

/-- A search that may fail, but goes through, finds what a search for the same elements finds. -/
theorem findM?_eq_ok {ε α : Type} {f : α → Except ε Bool} {P : α → Bool}
    (hf : ∀ a b, f a = .ok b → P a = b) {l : List α} {a? : Option α}
    (h : l.findM? f = .ok a?) : a? = l.find? P := by
  induction l with
  | nil =>
    cases h
    rfl
  | cons a l ih =>
    rw [List.findM?] at h
    obtain ⟨b, hb, h⟩ := bind_eq_ok h
    rw [List.find?_cons, hf a b hb]
    cases b with
    | false => exact ih h
    | true =>
      cases h
      rfl

/-- A file stands at a path, seen from the root. -/
def isThere (t : Tree) (p : Path) : Bool := (t.read [] p).isOk

theorem isThere_of_hasFile {t : Tree} {p : Path} {b : Bool} (h : t.hasFile [] p = .ok b) :
    isThere t p = b := by
  rw [Tree.hasFile] at h
  rw [isThere]
  split at h <;> simp_all [Except.isOk, Except.toBool]

/-- The settings file of the folder a number of levels above a folder; the root is above itself. -/
def projectFile (folder : Location) (level : Nat) : Path :=
  .ofPlace (folder.take (folder.length - level) ++ [projectFileName])

theorem projectFile_succ (folder : Location) (level : Nat) :
    projectFile folder (level + 1) = projectFile folder.dropLast level := by
  rw [projectFile, projectFile, List.length_dropLast, List.dropLast_eq_take, List.take_take]
  congr 4
  omega

/-- The places that are searched are those of the levels, the root's but once. -/
theorem find?_projectPlaces (n : Nat) (folder : Location) (P : Path → Bool) :
    ((projectPlaces n folder).map Path.ofPlace).find? P =
      ((List.range n).map (projectFile folder)).find? P := by
  have hzero : projectFile folder 0 = .ofPlace (folder ++ [projectFileName]) := by
    rw [projectFile, Nat.sub_zero, List.take_length]
  induction n generalizing folder with
  | zero => rfl
  | succ n ih =>
    have hrange : (List.range (n + 1)).map (projectFile folder) =
        projectFile folder 0 :: (List.range n).map (projectFile folder.dropLast) := by
      rw [List.range_succ_eq_map, List.map_cons, List.map_map]
      exact congrArg _ (List.map_congr_left fun level _ => projectFile_succ folder level)
    rw [hrange, projectPlaces, List.map_cons, List.find?_cons, List.find?_cons, hzero]
    split
    · rfl
    · next hroot =>
      split
      · next hempty =>
        obtain rfl := List.isEmpty_iff.mp hempty
        have hnone : ∀ p ∈ (List.range n).map (projectFile []), ¬P p = true := by
          intro p hp
          obtain ⟨level, -, rfl⟩ := List.mem_map.mp hp
          simpa [projectFile] using hroot
        exact (List.find?_eq_none.mpr hnone).symm
      · refine ih folder.dropLast ?_
        rw [projectFile, Nat.sub_zero, List.take_length]

/-- The project's file is that of the nearest of the folders that has one. -/
theorem findProject_eq_ok {t : Tree} {folder : Location} {path? : Option Path}
    (h : findProject t folder = .ok path?) :
    path? = ((List.range searchDepth).map (projectFile folder)).find? (isThere t) := by
  rw [← find?_projectPlaces]
  exact findM?_eq_ok (fun _ _ => isThere_of_hasFile) h

/-- The fields that the file of a user or project has: none without a file, or when the file holds
no object or cannot be read. -/
def backgroundTier (depth : Nat) (t : Tree) (path? : Option Path) :
    List (Document × Document) :=
  match path?.bind fun p => (t.read [] p).toOption.bind fun octets =>
    (readJson depth octets).toOption with
  | some (.object fields) => fields
  | _ => []

/-- The fields that a file asked for has. -/
def explicitTier (n : Nesting) (t : Tree) (folder : Location) (path? : Option Path) :
    List (Document × Document) :=
  match path?.bind fun p => (t.read folder p).toOption.bind fun octets =>
    (readFile n p octets).toOption with
  | some (.object fields) => fields
  | _ => []

/-! Taking the tiers over. -/

section
variable {n : Nesting} {depth : Nat} {t : Tree} {folder : Location} {r r' : Resolved} {path : Path}

theorem applyBackground_eq_ok (h : applyBackground depth r t path = .ok r') :
    Takes (fieldOf? (backgroundTier depth t (some path))) r.settings r'.settings ∧
      r' = { r with settings := r'.settings, unreadable := r'.unreadable } := by
  rw [applyBackground] at h
  obtain ⟨fields?, hfields, h⟩ := bind_eq_ok h
  have htier : backgroundTier depth t (some path) = fields?.getD [] := by
    rw [backgroundFields] at hfields
    rw [backgroundTier, Option.bind_some]
    split at hfields
    · next hread =>
      cases hfields
      rw [hread]
      rfl
    · next octets hread =>
      rw [hread]
      change (match (readJson depth octets).toOption with
        | some (.object fields) => fields
        | _ => []) = _
      split at hfields
      · next v hv =>
        cases hfields
        rw [hv]
        cases v <;> rfl
      · next hv =>
        cases hfields
        rw [hv]
        rfl
      · cases hfields
  cases fields? with
  | none =>
    cases h
    rw [htier]
    exact ⟨.of_none fun _ => rfl, rfl⟩
  | some fields =>
    obtain ⟨s, hs, h⟩ := bind_eq_ok h
    cases h
    rw [htier]
    exact ⟨takes_of_applied hs, rfl⟩

theorem applyUser_eq_ok (h : applyUser depth t path = .ok r) :
    Takes (fieldOf? (backgroundTier depth t r.user)) {} r.settings ∧
      r.user = (some path).filter (isThere t) ∧ r.project = none ∧ r.explicit = none := by
  rw [applyUser] at h
  obtain ⟨b, hb, h⟩ := bind_eq_ok h
  have hthere := isThere_of_hasFile (mapError_eq_ok hb)
  cases b with
  | false =>
    cases h
    refine ⟨.of_none fun _ => rfl, ?_, rfl, rfl⟩
    rw [Option.filter_some, hthere]
    rfl
  | true =>
    obtain ⟨r₁, h₁, h⟩ := bind_eq_ok h
    cases h
    obtain ⟨htakes, e⟩ := applyBackground_eq_ok (mapError_eq_ok h₁)
    refine ⟨htakes, ?_, by rw [e], by rw [e]⟩
    rw [Option.filter_some, hthere]
    rfl

theorem applyProject_eq_ok (h : applyProject depth r t folder = .ok r')
    (hnone : r.project = none) :
    Takes (fieldOf? (backgroundTier depth t r'.project)) r.settings r'.settings ∧
      r'.project = ((List.range searchDepth).map (projectFile folder)).find? (isThere t) ∧
      r'.user = r.user ∧ r'.explicit = r.explicit := by
  rw [applyProject] at h
  obtain ⟨path?, hpath, h⟩ := bind_eq_ok h
  rw [← findProject_eq_ok (mapError_eq_ok hpath)]
  cases path? with
  | none =>
    cases h
    rw [hnone]
    exact ⟨.of_none fun _ => rfl, rfl, rfl, rfl⟩
  | some path =>
    obtain ⟨r₁, h₁, h⟩ := bind_eq_ok h
    cases h
    obtain ⟨htakes, e⟩ := applyBackground_eq_ok (mapError_eq_ok h₁)
    exact ⟨htakes, rfl, by rw [e], by rw [e]⟩

theorem applyExplicit_eq_ok (h : applyExplicit n r t folder path = .ok r') :
    Takes (fieldOf? (explicitTier n t folder (some path))) r.settings r'.settings ∧
      r' = { r with settings := r'.settings, explicit := some path } := by
  rw [applyExplicit] at h
  obtain ⟨octets, hread, h⟩ := bind_eq_ok h
  obtain ⟨v, hv, h⟩ := bind_eq_ok h
  obtain ⟨s, hs, h⟩ := bind_eq_ok h
  have htier : explicitTier n t folder (some path) = fieldsOrNone v := by
    rw [explicitTier, Option.bind_some, mapError_eq_ok hread]
    change (match (readFile n path octets).toOption with
      | some (.object fields) => fields
      | _ => []) = _
    rw [mapError_eq_ok hv]
    cases v <;> rfl
  cases h
  rw [htier]
  exact ⟨takes_of_applied (mapError_eq_ok hs), rfl⟩

end

/-- The value that the first of some tiers has for a field. -/
def firstValue? (tiers : List (List (Document × Document))) (name : List Char) : Option Document :=
  tiers.findSome? (fieldOf? · name)

/-- Every field has its value from the first tier that has the field, out of the file asked for,
the project's and the user's, and is as it is without any file when none of them has it. The files
named are the ones that stand there, the project's being the nearest among those of the folder and
of the 49 above it, and the one asked for. -/
theorem load_precedence {t : Tree} {folder : Location} {user : Path} {explicit : Option Path}
    {n : Nesting} {r : Resolved} (loaded : load t folder user explicit n = .ok r) :
    Takes (firstValue? [explicitTier n t folder r.explicit, backgroundTier n.json t r.project,
        backgroundTier n.json t r.user]) {} r.settings ∧
      r.user = (some user).filter (isThere t) ∧
      r.project = ((List.range 50).map (projectFile folder)).find? (isThere t) ∧
      r.explicit = explicit := by
  rw [load] at loaded
  obtain ⟨r₁, h₁, loaded⟩ := bind_eq_ok loaded
  obtain ⟨r₂, h₂, loaded⟩ := bind_eq_ok loaded
  obtain ⟨htakes₁, huser, hproject₁, hexplicit₁⟩ := applyUser_eq_ok h₁
  obtain ⟨htakes₂, hproject, huser₂, hexplicit₂⟩ := applyProject_eq_ok h₂ hproject₁
  have hfirst (a b c : List (Document × Document)) : firstValue? [a, b, c] =
      fun name => (fieldOf? a name).or ((fieldOf? b name).or (fieldOf? c name)) := by
    funext name
    simp only [firstValue?, List.findSome?_cons, List.findSome?_nil]
    cases fieldOf? a name <;> cases fieldOf? b name <;> cases fieldOf? c name <;> rfl
  have htakes := htakes₁.trans htakes₂
  rw [hfirst]
  cases explicit with
  | none =>
    cases loaded
    have hnone : Takes (fieldOf? (explicitTier n t folder none)) r.settings r.settings :=
      .of_none fun _ => rfl
    rw [huser₂, hexplicit₂, hexplicit₁]
    exact ⟨htakes.trans hnone, huser, hproject, rfl⟩
  | some path =>
    obtain ⟨htakes₃, e⟩ := applyExplicit_eq_ok loaded
    rw [e, huser₂]
    exact ⟨htakes.trans htakes₃, huser, hproject, rfl⟩

/-- A file with a text in it. -/
def textFile (s : String) : Entry := .file (Utf8.encode s.toList)

/-- The settings file of a user. -/
def userFile : Path := ⟨['/'], ["home".toList, "config.json".toList]⟩

/-- A settings file for one evening. -/
def eveningFile : Path := ⟨['/'], ["evening.json".toList]⟩

/-- Settings of a user, of a play with folders of its own, and of one evening. -/
def threeTiers : Tree := ⟨[
  (userFile.components, textFile "\x7b\"escape_char\": \"#\", \"max_passes\": 3\x7d"),
  (["play".toList, projectFileName], textFile "\x7b\"max_passes\": \" 12 \"\x7d"),
  (eveningFile.components, textFile "\x7b\"grammar\": 0\x7d")]⟩

/-- The settings file of the play. -/
def playFile : Path := ⟨['/'], ["play".toList, projectFileName]⟩

/-- What the files hold, the one for the evening first. -/
def threeTierFields : List (List (Document × Document)) := [
  explicitTier {} threeTiers ["play".toList, "act".toList] (some eveningFile),
  backgroundTier Json.usualDepth threeTiers (some playFile),
  backgroundTier Json.usualDepth threeTiers (some userFile)]

theorem load_precedence_threeTiers :
    ∃ r, load threeTiers ["play".toList, "act".toList] userFile (some eveningFile) = .ok r ∧
      r.settings = ⟨'#', some 12, false⟩ ∧ r.user = some userFile ∧
      r.project = some playFile ∧ r.explicit = some eveningFile := by
  have hloads : (load threeTiers ["play".toList, "act".toList] userFile
      (some eveningFile)).toOption.isSome := by decide +kernel
  obtain ⟨r, hr⟩ := Option.isSome_iff_exists.mp hloads
  have loaded := toOption_eq_some.mp hr
  obtain ⟨htakes, huser, hproject, hexplicit⟩ := load_precedence loaded
  replace huser : r.user = some userFile := huser.trans (by decide +kernel)
  replace hproject : r.project = some playFile := hproject.trans (by decide +kernel)
  refine ⟨r, loaded, ?_, huser, hproject, hexplicit⟩
  rw [huser, hproject, hexplicit] at htakes
  have hescape : (firstValue? threeTierFields "escape_char".toList).map display = some ['#'] := by
    decide +kernel
  have hmaxPasses : (firstValue? threeTierFields "max_passes".toList).bind (·.toInt?.toOption) =
      some (some 12) := by decide +kernel
  have hgrammar : (firstValue? threeTierFields "grammar".toList).map truth = some false := by
    decide +kernel
  exact htakes.eq_of_values hescape hmaxPasses hgrammar

end DialogueMarkup.Settings
