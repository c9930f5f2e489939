import DumpSummary.Dump.File
import DumpSummary.Proofs.Text.Utf8
import DumpSummary.Settings.Load

/-!
# Line ends are read alike

A text without returns can be stored with any of three line ends.  Whichever it is, reading the bytes and unifying the
line ends gives the text back: a return that stands for a line feed is never followed by another line feed, unless both
were written for one.

## Contents

* `LineEnd`, `LineEnd.write`, `LineEnd.bytes`: the three ways to store a text;
* `unifyLines_flatMap`: **the line ends are unified**;
* `textOf_bytes`, `decodePieces_bytes`: a stored text as a dump and as settings;
* `SameText`: files of the same text.
-/

namespace DumpSummary.Text

/-- What ends a line of a stored text. -/
inductive LineEnd
  /-- A line feed. -/
  | lineFeed
  /-- A return and a line feed. -/
  | returnLineFeed
  /-- A return. -/
  | carriageReturn
  deriving DecidableEq, Repr

namespace LineEnd

/-- The characters of a line end. -/
def chars : LineEnd → List Char
  | .lineFeed => ['\n']
  | .returnLineFeed => ['\r', '\n']
  | .carriageReturn => ['\r']

/-- A character of a text as it is stored. -/
def writeChar (e : LineEnd) (c : Char) : List Char :=
  if c = '\n' then e.chars else [c]

/-- The text with every line feed written as the line end. -/
def write (e : LineEnd) (text : String) : String :=
  String.ofList (text.toList.flatMap e.writeChar)

/-- What a file in UTF-8 holds that stores the text. -/
def bytes (e : LineEnd) (text : String) : Bytes :=
  (e.write text).toUTF8.toList

/-- A text whose lines end in line feeds is stored as it is. -/
theorem bytes_lineFeed (text : String) : lineFeed.bytes text = text.toUTF8.toList := by
  have hchar : lineFeed.writeChar = fun c => [c] := by
    funext c
    unfold writeChar
    split
    · rename_i hc
      rw [hc]
      rfl
    · rfl
  rw [bytes, write, hchar, List.flatMap_singleton', String.ofList_toList]

end LineEnd

variable {e : LineEnd} {cs : List Char} {c : Char} {text : String}

/-! ## Unified line ends -/

theorem unifyLines_cons (hc : c ≠ '\r') (cs : List Char) : unifyLines (c :: cs) = c :: unifyLines cs := by
  rw [unifyLines]
  · rintro rest rfl -
    exact hc rfl
  · rintro rfl
    exact hc rfl

/-- A return that no line feed follows. -/
theorem unifyLines_return (h : cs.head? ≠ some '\n') : unifyLines ('\r' :: cs) = '\n' :: unifyLines cs := by
  rw [unifyLines]
  rintro rest rfl
  exact h rfl

/-- Behind a return that is written for a line feed there is no line feed. -/
theorem head?_flatMap_carriageReturn (cs : List Char) :
    (cs.flatMap LineEnd.carriageReturn.writeChar).head? ≠ some '\n' := by
  cases cs with
  | nil => simp
  | cons c cs =>
    rw [List.flatMap_cons, LineEnd.writeChar]
    split
    · simp [LineEnd.chars]
    · rename_i hc
      simpa using hc

/-- **The line ends of a text without returns are unified**, whichever they are. -/
theorem unifyLines_flatMap (e : LineEnd) (h : '\r' ∉ cs) : unifyLines (cs.flatMap e.writeChar) = cs := by
  induction cs with
  | nil => rfl
  | cons c cs ih =>
    rw [List.mem_cons, not_or] at h
    have hrest := ih h.2
    rw [List.flatMap_cons, LineEnd.writeChar]
    split
    · rename_i hc
      subst hc
      cases e with
      | lineFeed => rw [LineEnd.chars, List.singleton_append, unifyLines_cons (by decide), hrest]
      | returnLineFeed => rw [LineEnd.chars, List.cons_append, List.singleton_append, unifyLines, hrest]
      | carriageReturn =>
        -- a line feed behind it would be taken for a part of the same line end
        rw [LineEnd.chars, List.singleton_append, unifyLines_return (head?_flatMap_carriageReturn cs), hrest]
    · rw [List.singleton_append, unifyLines_cons (Ne.symm h.1), hrest]

/-! ## Stored texts -/

theorem unifyLines_write (e : LineEnd) (h : '\r' ∉ text.toList) : unifyLines (e.write text).toList = text.toList := by
  rw [LineEnd.write, String.toList_ofList, unifyLines_flatMap e h]

/-- **A dump that is stored in UTF-8** is read as its text. -/
theorem textOf_bytes {encoding : String} (e : LineEnd) (h : '\r' ∉ text.toList)
    (hencoding : Encoding.ofName? encoding = some .utf8) : Dump.textOf encoding (e.bytes text) = .ok text := by
  have hdecode : Encoding.utf8.decode (e.bytes text) = .ok (e.write text).toList := by
    rw [Encoding.decode, LineEnd.bytes, Utf8.decode_toUTF8]
    rfl
  simp only [Dump.textOf, hencoding, hdecode, unifyLines_write e h, String.ofList_toList]

/-- So are the bytes of settings, up to their line ends. -/
theorem decodePieces_bytes (e : LineEnd) (text : String) :
    decodePieces (e.bytes text) = .ok (e.write text).toList := by
  rw [decodePieces, LineEnd.bytes, Utf8.decode_toUTF8]
  rfl

/-- Two files hold the same bytes, or the same text whose lines end in one way or another. -/
inductive SameText : Bytes → Bytes → Prop
  /-- They hold the same bytes. -/
  | bytes (content : Bytes) : SameText content content
  /-- They hold the same text. -/
  | lines {text : String} (noReturn : '\r' ∉ text.toList) (e e' : LineEnd) : SameText (e.bytes text) (e'.bytes text)

/-- The same text is read as a dump. -/
theorem SameText.textOf_eq {content content' : Bytes} {encoding : String} (h : SameText content content')
    (hencoding : Encoding.ofName? encoding = some .utf8) :
    Dump.textOf encoding content = Dump.textOf encoding content' := by
  cases h with
  | bytes => rfl
  | lines noReturn e e' => rw [textOf_bytes e noReturn hencoding, textOf_bytes e' noReturn hencoding]

/-- The same text is read as settings, or none. -/
theorem SameText.decodePieces {content content' : Bytes} (h : SameText content content') :
    (∃ f, Text.decodePieces content = .error f ∧ Text.decodePieces content' = .error f) ∨
      ∃ cs cs', Text.decodePieces content = .ok cs ∧ Text.decodePieces content' = .ok cs' ∧
        unifyLines cs = unifyLines cs' := by
  cases h with
  | bytes =>
    cases hpieces : Text.decodePieces content with
    | error f => exact .inl ⟨f, rfl, rfl⟩
    | ok cs => exact .inr ⟨cs, cs, rfl, rfl, rfl⟩
  | lines noReturn e e' =>
    refine .inr ⟨_, _, decodePieces_bytes e _, decodePieces_bytes e' _, ?_⟩
    rw [unifyLines_write e noReturn, unifyLines_write e' noReturn]

end DumpSummary.Text
