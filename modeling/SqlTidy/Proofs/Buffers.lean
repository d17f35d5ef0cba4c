/-
Module: SqlTidy.Proofs.Buffers
Purpose: A buffer that is added to and trimmed in any order behaves as one plain text.
Main exports: Buffer.Edit, Buffer.BehavesAs, Buffer.BehavesAs.edit, Buffer.BehavesAs.scanl,
  Buffer.runBuffer_calls, Buffer.edits_behave_as_on_text
-/
import SqlTidy.Proofs.Layout
import SqlTidy.Proofs.RoundTrip
import SqlTidy.Untyped.BufferScript

namespace SqlTidy.Buffer

open Json (Value CodePoints)
open Untyped (appendValue bufferStep runBuffer)

/-!
The layout never looks at the parts of its buffer, only at the text that they make up and at the
question whether a line has just been ended.  That question is answered by the last part alone.
The answer is right because no part is ever empty, and it stays right because trimming drops every
part of which nothing is left.
-/

/-- What can be done to a text under construction. -/
inductive Edit where
  | append (text : List Char)
  | trimEnd
deriving Repr, DecidableEq

namespace Edit

/-- The edit of a buffer. -/
def onBuffer (buffer : Buffer) : Edit → Buffer
  | append text => buffer.append text
  | trimEnd => buffer.trimEnd

/-- The same edit of a plain text. -/
def onText (text : List Char) : Edit → List Char
  | append more => text ++ more
  | trimEnd => Text.trimEnd text

/-- The edit as an operation of a script: its name and its arguments. -/
def call : Edit → String × List Value
  | append text => ("append", [.ofChars text])
  | trimEnd => ("rstrip", [])

end Edit

/-- The buffer cannot be told from a plain text: it has that text, a line starts where the text is
empty or has just ended one, and no part of the buffer is empty. -/
structure BehavesAs (buffer : Buffer) (text : List Char) : Prop where
  value_eq : buffer.value = text
  atLineStart_iff : buffer.atLineStart = true ↔ text = [] ∨ text.getLast? = some '\n'
  part_ne_nil : ∀ part ∈ buffer.parts, part ≠ []

/-- It is enough that the parts are filled; where lines start follows from that. -/
theorem behavesAs_iff {buffer : Buffer} {text : List Char} :
    buffer.BehavesAs text ↔ buffer.value = text ∧ buffer.Filled := by
  constructor
  · intro h
    exact ⟨h.value_eq, fun part hpart => h.part_ne_nil part (List.mem_reverse.2 hpart)⟩
  · rintro ⟨rfl, hfilled⟩
    refine ⟨rfl, ?_, fun part hpart => hfilled part (List.mem_reverse.1 hpart)⟩
    rw [atLineStart_eq hfilled]
    cases hlast : buffer.value.getLast? with
    | none => simpa using hlast
    | some c =>
        have hne : buffer.value ≠ [] := by
          intro hnil
          simp [hnil] at hlast
        simp [hne]

theorem behavesAs_empty : empty.BehavesAs [] :=
  behavesAs_iff.2 ⟨rfl, filled_empty⟩

/-- One edit. -/
theorem BehavesAs.edit {buffer : Buffer} {text : List Char} (h : buffer.BehavesAs text)
    (edit : Edit) : (edit.onBuffer buffer).BehavesAs (edit.onText text) := by
  obtain ⟨rfl, hfilled⟩ := behavesAs_iff.1 h
  cases edit with
  | append more => exact behavesAs_iff.2 ⟨value_append buffer more, hfilled.append more⟩
  | trimEnd => exact behavesAs_iff.2 ⟨value_trimEnd buffer, hfilled.trimEnd⟩

/-- All edits: the buffers and the texts that come up keep step. -/
theorem BehavesAs.scanl {buffer : Buffer} {text : List Char} (h : buffer.BehavesAs text)
    (edits : List Edit) :
    List.Forall₂ BehavesAs (edits.scanl Edit.onBuffer buffer) (edits.scanl Edit.onText text) := by
  induction edits generalizing buffer text with
  | nil =>
      rw [List.scanl_nil, List.scanl_nil]
      exact .cons h .nil
  | cons edit edits ih =>
      rw [List.scanl_cons, List.scanl_cons]
      exact .cons h (ih (h.edit edit))

/-! ### Scripts -/

theorem bufferStep_call (buffer : Buffer) (edit : Edit) :
    bufferStep buffer edit.call.1 edit.call.2 = .ok ⟨.null, edit.onBuffer buffer⟩ := by
  cases edit with
  | append text =>
      have hread : appendValue buffer (.ofChars text) = .ok (buffer.append text) := by
        rw [Value.ofChars, appendValue, CodePoints.toChars_ofChars]
      calc bufferStep buffer "append" [.ofChars text]
          = (do .ok ⟨.null, ← appendValue buffer (.ofChars text)⟩) := rfl
        _ = .ok ⟨.null, buffer.append text⟩ := by rw [hread]; rfl
  | trimEnd => rfl

/-- A script of edits runs to its end and shows the buffer after every edit. -/
theorem runBuffer_calls (buffer : Buffer) (edits : List Edit) :
    ∃ reports, runBuffer buffer (edits.map Edit.call) = .ok reports ∧
      edits.scanl Edit.onBuffer buffer = buffer :: reports.map (·.buffer) := by
  induction edits generalizing buffer with
  | nil => exact ⟨[], rfl, List.scanl_nil⟩
  | cons edit edits ih =>
      obtain ⟨reports, hrun, hscan⟩ := ih (edit.onBuffer buffer)
      refine ⟨⟨.null, edit.onBuffer buffer⟩ :: reports, ?_, ?_⟩
      · calc runBuffer buffer ((edit :: edits).map Edit.call)
            = (do
                let report ← bufferStep buffer edit.call.1 edit.call.2
                return report :: (← runBuffer report.buffer (edits.map Edit.call))) := rfl
          _ = .ok (⟨.null, edit.onBuffer buffer⟩ :: reports) := by
            rw [bufferStep_call]
            change (do return _ :: (← runBuffer (edit.onBuffer buffer) _)) = _
            rw [hrun]
            rfl
      · rw [List.scanl_cons, hscan]
        rfl

/-- A buffer behaves as a plain text.  Whatever is added to it, be it empty or blank, and wherever it
is trimmed in between, after every edit it has the text that the same edits make of a plain text, it
says that a line starts exactly where that text is empty or ends with a line feed, and none of its
parts is empty.  A script of the same edits shows these very buffers. -/
theorem edits_behave_as_on_text (edits : List Edit) :
    List.Forall₂ BehavesAs (edits.scanl Edit.onBuffer .empty) (edits.scanl Edit.onText []) ∧
      ∃ reports, runBuffer .empty (edits.map Edit.call) = .ok reports ∧
        edits.scanl Edit.onBuffer .empty = .empty :: reports.map (·.buffer) :=
  ⟨behavesAs_empty.scanl edits, runBuffer_calls .empty edits⟩

/-- Trimming goes back over parts of blanks and stops inside the part with the last letter. -/
example :
    let edits : List Edit :=
      [.append ['a', '\n'], .append ['b', '\n', ' '], .append ['\t'], .append ['\u00A0'], .trimEnd]
    (edits.foldl Edit.onBuffer .empty).parts = [['a', '\n'], ['b']] := by
  decide

end SqlTidy.Buffer
