/-
Module: SqlTidy.Untyped.BufferScript
Purpose: Buffer operations given as values, and a report after each of them.
Main exports: Untyped.BufferReport, Untyped.runBuffer
-/
import SqlTidy.Layout.Buffer
import SqlTidy.Untyped.Argument

namespace SqlTidy.Untyped

open Json (Value)

/-- What an operation on a buffer has left: its own answer and the buffer. -/
structure BufferReport where
  answer : Value
  buffer : Buffer

/-- Checks the number of arguments. -/
def checkArity (callee : Callee) (arguments : List Value) : Except Fault Unit :=
  if arguments.length < callee.needed.length then
    .error (.tooFewArguments callee arguments.length)
  else if callee.needed.length + callee.further < arguments.length then
    .error (.tooManyArguments callee arguments.length)
  else .ok ()

/-- Adds a value to a buffer.  A value that stands for nothing adds nothing, and only a text can be
read back. -/
def appendValue (buffer : Buffer) : Value → Except Fault Buffer
  | .string text => .ok (buffer.append text.toChars)
  | value =>
      if value.isVoid then .ok buffer
      else .error (.partNotText buffer.parts.length value.kind)

/-- Runs one operation, given by its name and its arguments. -/
def bufferStep (buffer : Buffer) (name : String) (arguments : List Value) :
    Except Fault BufferReport := do
  let callee := "_Buffer." ++ name
  if name == "append" then
    checkArity ⟨callee, ["s"], 0⟩ arguments
    .ok ⟨.null, ← appendValue buffer (arguments.head?.getD .null)⟩
  else if name == "rstrip" then
    checkArity ⟨callee, [], 0⟩ arguments
    .ok ⟨.null, buffer.trimEnd⟩
  else if name == "at_line_start" then
    checkArity ⟨callee, [], 0⟩ arguments
    .ok ⟨.bool buffer.atLineStart, buffer⟩
  else if name == "getvalue" then
    checkArity ⟨callee, [], 0⟩ arguments
    .ok ⟨.ofChars buffer.value, buffer⟩
  else .error (.unknownBufferOperation name)

/-- Runs operations one after the other and reports on each. -/
def runBuffer (buffer : Buffer) : List (String × List Value) → Except Fault (List BufferReport)
  | [] => .ok []
  | (name, arguments) :: rest => do
      let report ← bufferStep buffer name arguments
      return report :: (← runBuffer report.buffer rest)

end SqlTidy.Untyped
