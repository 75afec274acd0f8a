/-!
# Paths

A path is kept as it was written: joining two paths never tidies up dots or doubled separators.
Only the way to the enclosing directories looks at segments. There a path has an optional lead, the
root `/` or a single leading `.`, and a body of segments between separators; empty segments and
further `.` segments are passed over.
-/
namespace SchemaScribe

structure Path where
  text : String
  deriving DecidableEq, Repr

namespace Path

/-- `right` inside the directory `left`. A path from the root replaces what is before it. -/
def join (left right : Path) : Path :=
  if right.text.toList.head? = some '/' then right
  else if left.text.toList.getLast? = none ∨ left.text.toList.getLast? = some '/' then
    ⟨left.text ++ right.text⟩
  else ⟨left.text ++ "/" ++ right.text⟩

/-- Where a path starts from. -/
inductive Lead where
  | root
  | here
  | bare
  deriving DecidableEq, Repr

def Lead.text : Lead → List Char
  | .root => ['/']
  | .here => ['.']
  | .bare => []

/-- The lead of a path and the text after it. -/
def splitLead : List Char → Lead × List Char
  | '/' :: rest => (.root, rest)
  | ['.'] => (.here, [])
  | '.' :: '/' :: rest => (.here, '/' :: rest)
  | cs => (.bare, cs)

/-- Segments that name nothing. -/
def isIdle (segment : List Char) : Bool := segment = [] || segment = ['.']

/-- The directories on the way to a place: those with a lead and given segments, from the last
segment to the first, and everything around them. The working directory closes the list of a
relative path, as the empty path. -/
def directoriesFrom (lead : Lead) : List (List Char) → List Path
  | [] =>
      match lead with
      | .root => [⟨"/"⟩]
      | .here => [⟨"."⟩, ⟨""⟩]
      | .bare => [⟨""⟩]
  | segment :: outer =>
      if isIdle segment then directoriesFrom lead outer
      else
        ⟨String.ofList (lead.text ++ ['/'].intercalate (segment :: outer).reverse)⟩ ::
          directoriesFrom lead outer

/-- The directories that enclose a path, from the innermost outwards. The root and the empty path
have none. -/
def enclosing (p : Path) : List Path :=
  let (lead, body) := splitLead p.text.toList
  match (body.splitOn '/').reverse.dropWhile isIdle, lead with
  | _ :: outer, _ => directoriesFrom lead outer
  | [], .here => [⟨""⟩]
  | [], _ => []

/-- The segments of a path as a file system walks it; what stands before a leading separator is an
empty segment. -/
def segments (p : Path) : List String := (p.text.toList.splitOn '/').map String.ofList

/-- Whether a path starts at the root. -/
def isAbsolute (p : Path) : Bool := p.text.toList.head? == some '/'

end Path

end SchemaScribe
