import DriveBench.Log.Pattern.Meaning
import DriveBench.Log.Pattern.Reader
import DriveBench.Log.Pattern.Room

/-!
# Patterns from text, and refused ones

A text is refused as a pattern for the first mistake in how it is written, then
for the first in what it means. An automaton made of what is left may be too
large, forwards or, if words of all alphabets are not asked for, backwards.
-/

namespace DriveBench.Log.Pattern

inductive Refusal
  | mistake (mistake : Mistake)
  | tooLarge
  | words
  deriving DecidableEq, Repr

def Refusal.message (pattern : String) : Refusal → String
  | mistake m => m.message pattern
  | tooLarge => s!"Compiled regex exceeds size limit of {largestRoom} bytes."
  | words => "error building NFA"

def ofText (text : String) : Except Refusal Pattern := do
  let form ← (Form.ofText text).mapError .mistake
  let (pattern, _) ← (form.mean {}).mapError .mistake
  if pattern.isTooLarge false then throw .tooLarge
  if pattern.asksForWords then throw .words
  if pattern.isTooLarge true then throw .tooLarge
  return pattern

end DriveBench.Log.Pattern
