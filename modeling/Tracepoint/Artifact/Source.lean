/-!
# Source text

Every artifact is a list of lines under the same two comment lines, each ended by a newline.
Field names that the target language keeps for itself are escaped.
-/

set_option autoImplicit false

namespace Tracepoint.Artifact

/-- The text of lines, each with its newline. -/
def unlines (lines : List String) : String :=
  String.join (lines.map (· ++ "\n"))

/-- The comment at the top of every artifact. -/
def banner : List String := [
  "// Generated file, do not edit.",
  "// Source: tracewell-schema"]

/-- The words of Rust that are not used as field names without an escape. -/
def rustKeywords : List String := [
  "as", "async", "await", "box", "break", "const", "continue", "crate", "dyn", "else", "enum",
  "extern", "false", "fn", "for", "if", "impl", "in", "let", "loop", "match", "mod", "move",
  "mut", "pub", "ref", "return", "static", "struct", "super", "trait", "true", "type", "unsafe",
  "use", "where", "while", "yield"]

/-- A kernel field name as a field name of Rust. -/
def rustField (name : String) : String :=
  if name ∈ rustKeywords then "r#" ++ name else name

/-- The name of the field that holds the path behind a descriptor field. -/
def pathField (name : String) : String :=
  name ++ "_path"

end Tracepoint.Artifact
