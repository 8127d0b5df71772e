import EntityGraph.Dict

/-!
# Files

All that is asked of files: whether there is something at a path, and the text of a file. Whoever looks at files
runs in any monad, so that a directory whose texts are all known serves as well as a disk.
-/
namespace EntityGraph

/-- How files are looked at. -/
structure Files (m : Type → Type) where
  /-- Whether there is something at a path. -/
  exists? : String → m Bool
  /-- The text of the file at a path, if it can be read. -/
  read? : String → m (Option String)

/-- A directory with the texts of all files in it, by their paths from there. -/
structure Directory where
  /-- The absolute path of the directory. -/
  place : String
  texts : Dict String

namespace Directory

variable (d : Directory)

/-- Whether a file is below a directory, given by its segments. -/
def isFolder (segments : List String) : Bool :=
  segments.isEmpty || d.texts.keys.any (fun name => ("/".intercalate (segments ++ [""])).isPrefixOf name)

/-- Where a path leads from a directory, segment by segment. Only directories lead on. -/
def walk? (segments : List String) : List String → Option (List String)
  | [] => some segments
  | s :: rest =>
    if !d.isFolder segments then none
    else if s = "" || s = "." then walk? segments rest
    else if s = ".." then if segments.isEmpty then none else walk? segments.dropLast rest
    else walk? (segments ++ [s]) rest

/-- The segments of a path, absolute or not, that stays in the directory. -/
def resolve? (path : String) : Option (List String) :=
  if path = "" then none
  else
    match path.splitOn (d.place ++ "/") with
    | "" :: rest => d.walk? [] (((d.place ++ "/").intercalate rest).splitOn "/")
    | _ => if path.startsWith "/" then none else d.walk? [] (path.splitOn "/")

/-- The text of the file at a path. -/
def text? (path : String) : Option String :=
  (d.resolve? path).bind (fun segments => d.texts.get? ("/".intercalate segments))

/-- Whether a path leads to a file or a directory. -/
def leads (path : String) : Bool :=
  (d.text? path).isSome || (d.resolve? path).any d.isFolder

/-- The directory as files. -/
def files : Files Id := ⟨d.leads, d.text?⟩

end Directory
end EntityGraph
