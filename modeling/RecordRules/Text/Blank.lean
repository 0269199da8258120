import RecordRules.Text.CharSet

/-!
# White space

The characters that stripping removes and that `\s` matches: the separators of Unicode 14, the line
and paragraph controls, and the four information separators.
-/

namespace RecordRules.Text

/-- White space of every script. -/
def whitespace : CharSet := ⟨#[
  9, 14, 28, 33, 133, 134, 160, 161, 5760, 5761, 8192, 8203, 8232, 8234, 8239, 8240, 8287, 8288,
  12288, 12289]⟩

end RecordRules.Text
