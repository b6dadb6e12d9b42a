import Interpolation.Text

/-!
# Globs

A glob describes texts with wildcards: `*` stands for any text, `?` for any character, and a
separator (`/` or a doubled backslash) for either kind of slash.

* `Glob.translate` writes a glob as a pattern, in which greedy or reluctant repetitions stand for
  the stars. What has no meaning in a glob is copied, so a glob may contain parts of patterns.
-/

namespace Interpolation.Glob

/-- The class of the characters that separate the parts of a path, as it is written in a
pattern. -/
def separatorClass : Text := ['[', '/', '\\', '\\', ']']

/-- Writes a glob as a pattern. A backslash and the character behind it are copied together, and
a backslash at the end means itself. -/
def translate (greedy : Bool) : Text → Text
  | [] => []
  | '\\' :: '\\' :: cs => separatorClass ++ translate greedy cs
  | '\\' :: c :: cs => '\\' :: c :: translate greedy cs
  | ['\\'] => ['\\', '\\']
  | '/' :: cs => separatorClass ++ translate greedy cs
  | '?' :: cs => '.' :: translate greedy cs
  | '.' :: cs => '\\' :: '.' :: translate greedy cs
  | '*' :: cs => (if greedy then ['.', '*'] else ['.', '*', '?']) ++ translate greedy cs
  | c :: cs => c :: translate greedy cs

end Interpolation.Glob
