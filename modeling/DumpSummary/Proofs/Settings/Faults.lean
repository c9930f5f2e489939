import DumpSummary.Proofs.Settings.Accepted
import DumpSummary.Proofs.Yaml.Building

/-!
# Faults of loading that are announced

A caller who asks for settings is told of two ways to fail: there is no file, or its content is wrong.  Loading has
more of them.  What it finds in a value is checked and reported, but what goes wrong on the way from a file to that
value is passed on as it comes, except where it happens to be a wrong value itself.

Here every outcome of loading is told apart by what stands at the place of the file and what the loader makes of it,
whatever loader that is: the settings that are given are accepted ones, and each fault is announced as one of the two or
not announced at all.

## Contents

* `Announced`, `LoadFault.announced?`: what callers are told of;
* `ContentFault.IsWrongValue`, `Wrong`, `Passed`: what the content of a file is to a loader;
* `ofFileWith_of_not_holds`, `ofFileWith_of_directory`, `ofFileWith_of_file`: what becomes of what stands at a path;
* `announced?_ofFileWith_iff`: from what stands there to what is announced, and back;
* `load_announced`: **the outcomes of loading.**
* `Loader.stage_of_own`: the stages in which the loader of this library refuses a text.
-/

namespace DumpSummary.Settings

/-! ## Announced faults -/

/-- What callers are told that loading may fail for. -/
inductive Announced
  /-- There is no such file. -/
  | missingFile
  /-- The content of the file is wrong. -/
  | wrongContent
  deriving DecidableEq

/-- How a fault is announced, if it is. -/
def LoadFault.announced? : LoadFault → Option Announced
  | .notFound _ => some .missingFile
  | .unreadable (.missing _) => some .missingFile
  | .unreadable _ => none
  | .undecodable _ => some .wrongContent
  | .malformed f => if f.kind = .value then some .wrongContent else none
  | .empty _ => some .wrongContent
  | .invalid _ _ => some .wrongContent

/-! ## What a loader makes of the content of a file -/

/-- A loader has met bytes that are no text, or a wrong value. -/
def ContentFault.IsWrongValue : ContentFault → Prop
  | .undecodable _ => True
  | .malformed f => f.kind = .value

variable {loader : Loader} {files : FileTree} {path : String} {content : Bytes}

/-- The content of a file is wrong, and callers are told so: the loader meets a wrong value in it, or it gives a value
that says nothing or that gives no settings. -/
def Wrong (loader : Loader) (content : Bytes) : Prop :=
  (∃ f, loader content = .error f ∧ f.IsWrongValue) ∨
    ∃ v, loader content = .ok v ∧ (v.isTruthy = false ∨ ∃ errors, ofDatum v = .error errors)

/-- The loader fails for the content of a file in a way that callers are not told of. -/
def Passed (loader : Loader) (content : Bytes) : Prop := ∃ f, loader content = .error f ∧ ¬ f.IsWrongValue

/-- A fault of a loader is announced if it is a wrong value. -/
theorem announced?_toLoadFault (f : ContentFault) :
    (f.IsWrongValue → f.toLoadFault.announced? = some .wrongContent) ∧
      (¬ f.IsWrongValue → f.toLoadFault.announced? = none) := by
  cases f with
  | undecodable f => exact ⟨fun _ => rfl, fun h => absurd trivial h⟩
  | malformed f => exact ⟨fun h => if_pos h, fun h => if_neg h⟩

/-! ## What becomes of what stands at a path -/

/-- Where there is nothing, there is no such file. -/
theorem ofFileWith_of_not_holds (h : files.holds (Path.ofText path) = false) :
    ofFileWith loader files path = .error (.notFound (Path.ofText path)) := by
  unfold ofFileWith
  simp only [h, Bool.not_false, if_true]

/-- A directory cannot be read. -/
theorem ofFileWith_of_directory (h : files.find (Path.ofText path) = .entry .directory) :
    ofFileWith loader files path = .error (.unreadable (.isDirectory (Path.ofText path))) := by
  unfold ofFileWith FileTree.holds FileTree.read
  simp only [h, Bool.not_true, Bool.false_eq_true, if_false]

/-- What the loader makes of a file is held to the rules of settings. -/
theorem ofFileWith_of_file (h : files.find (Path.ofText path) = .entry (.file content)) :
    ofFileWith loader files path = match loader content with
      | .error f => .error f.toLoadFault
      | .ok v =>
        if v.isTruthy then (ofDatum v).mapError (.invalid (Path.ofText path)) else .error (.empty (Path.ofText path)) := by
  unfold ofFileWith FileTree.holds FileTree.read
  simp only [h, Bool.not_true, Bool.false_eq_true, if_false]
  cases loader content with
  | error f => rfl
  | ok v => cases hv : v.isTruthy <;> simp [hv]

/-- **What is announced of a file**: wrong content, if that is what it has, and else nothing. -/
theorem announced?_of_file (h : files.find (Path.ofText path) = .entry (.file content)) (a : Option Announced) :
    (∃ f, ofFileWith loader files path = .error f ∧ f.announced? = a) ↔
      some .wrongContent = a ∧ Wrong loader content ∨ none = a ∧ Passed loader content := by
  rw [ofFileWith_of_file h]
  unfold Wrong Passed
  cases loader content with
  | error f =>
    by_cases hwrong : f.IsWrongValue
    · simp [hwrong, (announced?_toLoadFault f).1 hwrong]
    · simp [hwrong, (announced?_toLoadFault f).2 hwrong]
  | ok v =>
    cases hv : v.isTruthy with
    | false => simp [hv, LoadFault.announced?]
    | true => cases hdatum : ofDatum v <;> simp [hv, hdatum, Except.mapError, LoadFault.announced?]

/-! ## What is announced of a path -/

/-- What stands at a path if loading from there fails in a way that is announced so, or not at all. -/
def Explains (loader : Loader) (files : FileTree) (p : Path) : Option Announced → Prop
  | some .missingFile => files.holds p = false
  | some .wrongContent => ∃ content, files.find p = .entry (.file content) ∧ Wrong loader content
  | none => files.find p = .entry .directory ∨ ∃ content, files.find p = .entry (.file content) ∧ Passed loader content

/-- **What is announced of a path** tells what stands there, and is told by it. -/
theorem announced?_ofFileWith_iff (a : Option Announced) :
    (∃ f, ofFileWith loader files path = .error f ∧ f.announced? = a) ↔ Explains loader files (Path.ofText path) a := by
  cases hfind : files.find (Path.ofText path) with
  | entry e =>
    have hholds : files.holds (Path.ofText path) = true := by rw [FileTree.holds, hfind]
    cases e with
    | directory =>
      rw [ofFileWith_of_directory hfind]
      rcases a with _ | _ | _ <;> simp [Explains, hfind, hholds, LoadFault.announced?]
    | file content =>
      rw [announced?_of_file hfind]
      rcases a with _ | _ | _ <;> simp [Explains, hfind, hholds]
  | nothing =>
    have hholds : files.holds (Path.ofText path) = false := by rw [FileTree.holds, hfind]
    rw [ofFileWith_of_not_holds hholds]
    rcases a with _ | _ | _ <;> simp [Explains, hfind, hholds, LoadFault.announced?]
  | blocked =>
    have hholds : files.holds (Path.ofText path) = false := by rw [FileTree.holds, hfind]
    rw [ofFileWith_of_not_holds hholds]
    rcases a with _ | _ | _ <;> simp [Explains, hfind, hholds, LoadFault.announced?]

/-! ## The outcomes of loading -/

/-- Loading fails as the file that the settings come from does, and only if there is one. -/
theorem loadWith_eq_error_iff {environment path : Option String} {f : LoadFault} :
    loadWith loader files environment path = .error f ↔
      ∃ source, source? files environment path = some source ∧ ofFileWith loader files source = .error f := by
  unfold loadWith
  cases source? files environment path with
  | none => simp
  | some source => simp

/-- A fault of loading that is announced in some way, and what stands at the place that the settings come from. -/
theorem announced?_loadWith_iff {environment path : Option String} (a : Option Announced) :
    (∃ f, loadWith loader files environment path = .error f ∧ f.announced? = a) ↔
      ∃ source, source? files environment path = some source ∧ Explains loader files (Path.ofText source) a := by
  constructor
  · rintro ⟨f, hf, ha⟩
    obtain ⟨source, hsource, hfile⟩ := loadWith_eq_error_iff.mp hf
    exact ⟨source, hsource, (announced?_ofFileWith_iff a).mp ⟨f, hfile, ha⟩⟩
  · rintro ⟨source, hsource, hexplains⟩
    obtain ⟨f, hfile, ha⟩ := (announced?_ofFileWith_iff a).mpr hexplains
    exact ⟨f, loadWith_eq_error_iff.mpr ⟨source, hsource, hfile⟩, ha⟩

/-- **The outcomes of loading**, with whatever loader.  Settings that are loaded are accepted ones.  Callers are told
that there is no file exactly if settings come from a place where there is nothing.  They are told that its content is
wrong exactly if the loader meets a wrong value in the file there, or if the value that it gives says nothing or gives
no settings.  They are told nothing exactly if a directory stands there or the loader fails for the file in another
way. -/
theorem load_announced (loader : Loader) (files : FileTree) (environment path : Option String) :
    (∀ s, loadWith loader files environment path = .ok s → s.Accepted) ∧
    ((∃ f, loadWith loader files environment path = .error f ∧ f.announced? = some .missingFile) ↔
      ∃ source, source? files environment path = some source ∧ files.holds (Path.ofText source) = false) ∧
    ((∃ f, loadWith loader files environment path = .error f ∧ f.announced? = some .wrongContent) ↔
      ∃ source, source? files environment path = some source ∧
        ∃ content, files.find (Path.ofText source) = .entry (.file content) ∧
          ((∃ f, loader content = .error f ∧ f.IsWrongValue) ∨
            ∃ v, loader content = .ok v ∧ (v.isTruthy = false ∨ ∃ errors, ofDatum v = .error errors))) ∧
    ((∃ f, loadWith loader files environment path = .error f ∧ f.announced? = none) ↔
      ∃ source, source? files environment path = some source ∧
        (files.find (Path.ofText source) = .entry .directory ∨
          ∃ content, files.find (Path.ofText source) = .entry (.file content) ∧
            ∃ f, loader content = .error f ∧ ¬ f.IsWrongValue)) :=
  ⟨fun _ => accepted_of_loadWith, announced?_loadWith_iff (some .missingFile),
    announced?_loadWith_iff (some .wrongContent), announced?_loadWith_iff none⟩

/-- A file with a bracket that is not closed. -/
def unclosedFile : FileTree := ⟨[(Path.ofText "c.yaml", .file ("a: [1".toList.map fun c => UInt8.ofNat c.toNat))]⟩

/-- The content of the file is wrong, and callers are told nothing of it. -/
theorem load_unclosed :
    load unclosedFile none (some "c.yaml") = .error (.malformed ⟨.document, "while parsing a flow sequence"⟩) ∧
      (LoadFault.malformed ⟨.document, "while parsing a flow sequence"⟩).announced? = none :=
  ⟨failure?_eq_some_iff.mp (by decide +kernel), rfl⟩

/-! ## The loader of this library -/

/-- **The stages of the loader of this library.**  A text is refused for a character that no document may hold, or in
one of two stages, each with its kinds of faults: it is not put together as a document, or the document has no value. -/
theorem Loader.stage_of_own {f : Yaml.Fault} (h : Loader.own content = .error (.malformed f)) :
    ∃ pieces, Text.decodePieces content = .ok pieces ∧
      ((∃ c ∈ Text.unifyLines pieces, Yaml.isAllowed c = false) ∧ f.kind = .character ∨
        Yaml.Document.ofText? (Text.unifyLines pieces) = .error f ∧ f.kind ∈ Yaml.Compose.composingKinds ∨
        ∃ d, Yaml.Document.ofText? (Text.unifyLines pieces) = .ok (some d) ∧ Yaml.Values.ofDocument d = .error f ∧
          f.kind ∈ Yaml.buildingKinds) := by
  unfold Loader.own at h
  cases hdecode : Text.decodePieces content with
  | error e =>
    rw [hdecode] at h
    cases h
  | ok pieces =>
    rw [hdecode] at h
    dsimp only at h
    refine ⟨pieces, rfl, ?_⟩
    cases hload : Yaml.load depth (Text.unifyLines pieces) with
    | ok v =>
      rw [hload] at h
      cases h
    | error e =>
      rw [hload] at h
      cases h
      exact (Yaml.stage_of_load hload).imp id And.right

end DumpSummary.Settings
