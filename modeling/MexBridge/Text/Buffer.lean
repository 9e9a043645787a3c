/-!
# Text under construction

A generated file grows line by line.  `TextBuffer` keeps the lines without their line ends, so
that statements about a file can speak of its lines; `TextBuffer.render` is the file's text, in
which every line, the last one too, is ended.
-/

namespace MexBridge

set_option autoImplicit false

/-- The lines of a text under construction, in order. -/
structure TextBuffer where
  lines : List String := []
  deriving DecidableEq

namespace TextBuffer

/-- Appends one line. -/
def line (buffer : TextBuffer) (text : String) : TextBuffer :=
  ⟨buffer.lines ++ [text]⟩

/-- Appends lines as they are. -/
def extend (buffer : TextBuffer) (texts : List String) : TextBuffer :=
  ⟨buffer.lines ++ texts⟩

/-- Appends lines, each after the same margin. -/
def extendAfter (margin : String) (buffer : TextBuffer) (texts : List String) : TextBuffer :=
  buffer.extend (texts.map (margin ++ ·))

/-- The number of lines. -/
def size (buffer : TextBuffer) : Nat :=
  buffer.lines.length

/-- The text, each line ended by a line feed. -/
def render (buffer : TextBuffer) : String :=
  String.join (buffer.lines.map (· ++ "\n"))

@[simp] theorem lines_line (buffer : TextBuffer) (text : String) :
    (buffer.line text).lines = buffer.lines ++ [text] := rfl

@[simp] theorem lines_extend (buffer : TextBuffer) (texts : List String) :
    (buffer.extend texts).lines = buffer.lines ++ texts := rfl

@[simp] theorem size_line (buffer : TextBuffer) (text : String) :
    (buffer.line text).size = buffer.size + 1 := by
  simp [size]

@[simp] theorem size_extend (buffer : TextBuffer) (texts : List String) :
    (buffer.extend texts).size = buffer.size + texts.length := by
  simp [size]

end TextBuffer

end MexBridge
