import KeywordValues.Files.Basic

/-!
# A tree of files

A file system given by a list of what lies where. Paths are resolved from the left: each name is
looked up in the directory reached so far, and a symbolic link is replaced by its target.
-/

namespace KeywordValues

/-- What lies at a place. -/
inductive TreeNode where
  | file (f : RegularFile)
  | directory
  | device
  | link (target : String)

/-- What lies where, by the names on the way from the root, and the directory that relative paths
start from. -/
structure Tree where
  nodes : List (List String × TreeNode)
  workingDirectory : List String

namespace Tree

/-- The names that a path goes through. One that ends in a slash has to end in a directory. -/
def pathNames (path : String) : List String :=
  let names := (path.toList.splitOn '/').map String.ofList
  names.filter (· ≠ "") ++ if path.toList.getLast? = some '/' then ["."] else []

/-- What lies at a place. There are directories on the way to everything that lies somewhere. -/
def nodeAt? (t : Tree) (place : List String) : Option TreeNode :=
  match t.nodes.find? (·.1 = place) with
  | some (_, node) => some node
  | none =>
      if place.isEmpty || place.isPrefixOf t.workingDirectory ||
          t.nodes.any (place.isPrefixOf ·.1) then
        some .directory
      else none

/-- The longest name of a file and the longest path, in bytes. -/
def maxName : Nat := 255

@[inherit_doc maxName]
def maxPath : Nat := 4095

/-- How many symbolic links a path may lead through. -/
def maxLinks : Nat := 40

/-- What lies at the end of the given names, from a place that has been reached. A link at the very
end is replaced by its target only if `follow` holds. -/
def resolve (t : Tree) (follow : Bool) (links : Nat) (place : List String) :
    List String → Except FileFault TreeNode
  | [] => match t.nodeAt? place with
      | some node => .ok node
      | none => .error .notFound
  | name :: names =>
      match t.nodeAt? place with
      | some .directory =>
          if name = "." then resolve t follow links place names
          else if name = ".." then resolve t follow links place.dropLast names
          else if maxName < name.utf8ByteSize then .error .nameTooLong
          else match t.nodeAt? (place ++ [name]) with
            | some (.link target) =>
                if names.isEmpty && !follow then .ok (.link target)
                else match links with
                  | 0 => .error .tooManyLinks
                  | links + 1 =>
                      if target = "" then .error .notFound
                      else resolve t follow links
                        (if target.toList.head? = some '/' then [] else place)
                        (pathNames target ++ names)
            | some _ => resolve t follow links (place ++ [name]) names
            | none => .error .notFound
      | some _ => .error .notADirectory
      | none => .error .notFound
termination_by names => (links, names.length)

/-- What lies at a path. -/
def lookup (t : Tree) (follow : Bool) (path : String) : Except FileFault TreeNode :=
  if path.toList.contains '\x00' then .error .nulInPath
  else if path = "" then .error .notFound
  else if maxPath < path.utf8ByteSize then .error .nameTooLong
  else t.resolve follow maxLinks
    (if path.toList.head? = some '/' then [] else t.workingDirectory) (pathNames path)

/-- The tree as a file system. -/
def fileSystem (t : Tree) : FileSystem where
  isLink path := match t.lookup false path with
    | .ok (.link _) => .ok true
    | .ok _ => .ok false
    | .error fault => .error fault
  target path := match t.lookup true path with
    | .ok (.file f) => .ok (.regular f)
    | .ok _ => .ok .special
    | .error fault => .error fault

end Tree

end KeywordValues
