import LocaleText.Disk
import LocaleText.Disk.Path

/-!
# File trees in memory

A file tree lists its nodes by path, a path being the list of the names from the root of the tree.
`FileTree.disk` looks paths up in it the way a file system does: names are taken one after the
other, a name below a file is an error, two dots lead one directory up, and links are followed, up
to a bound on their number. Outside the tree there are directories with nothing in them.
-/

namespace LocaleText

/-- What stands at a path. -/
inductive Node where
  /-- A directory. -/
  | directory
  /-- A file with its text, or with content that is no text. -/
  | file (text : Option Text)
  /-- A link to another path. -/
  | link (target : Text)
  deriving DecidableEq, Repr

/-- The nodes of a tree by path. The root is a directory and is not listed. -/
structure FileTree where
  /-- The nodes. -/
  nodes : List (List Text × Node)
  deriving DecidableEq, Repr

namespace FileTree

/-- Where a path leads. -/
inductive Target where
  /-- To a node. -/
  | node (path : List Text)
  /-- To a directory outside the tree. -/
  | outside
  /-- To nothing. -/
  | missing
  /-- Through something that has nothing below it, round and round, or to a name that no directory
  can hold. -/
  | blocked
  deriving DecidableEq, Repr

/-- A tree with nothing in its root. -/
def empty : FileTree :=
  { nodes := [] }

/-- The node at a path. -/
def node? (tree : FileTree) (path : List Text) : Option Node :=
  if path.isEmpty then some .directory else tree.nodes.lookup path

/-- The tree with `node` at `path`, in place of what stands there. -/
def put (tree : FileTree) (path : List Text) (node : Node) : FileTree :=
  { nodes := (path, node) :: tree.nodes.filter fun entry => entry.1 ≠ path }

/-- The name that leads one directory up. -/
def upwards : Text := ['.', '.']

/-- The tree with directories along `names`, starting from the directory at `above`, and where the
names lead. What stands there already is kept. -/
def putDirectories (tree : FileTree) (above : List Text) : List Text → FileTree × List Text
  | [] => (tree, above)
  | name :: names =>
    if name = upwards then tree.putDirectories above.dropLast names
    else
      let path := above ++ [name]
      let grown := if (tree.node? path).isSome then tree else tree.put path .directory
      grown.putDirectories path names

/-- The tree with a node at `path` and directories above it. -/
def putBelow (tree : FileTree) (path : Text) (node : Node) : FileTree :=
  let names := Path.names path
  let (grown, above) := tree.putDirectories [] names.dropLast
  grown.put (above ++ names.getLast?.toList) node

/-- The tree with a file at `path` and directories above it. -/
def putFile (tree : FileTree) (path : Text) (text : Option Text) : FileTree :=
  tree.putBelow path (.file text)

/-- The tree with a directory at `path` and directories above it. -/
def putDirectory (tree : FileTree) (path : Text) : FileTree :=
  (tree.putDirectories [] (Path.names path)).1

/-- The tree with a link at `path` and directories above it. -/
def putLink (tree : FileTree) (path target : Text) : FileTree :=
  tree.putBelow path (.link target)

/-- Follows `steps` from a directory outside the tree. -/
def followOutside : List Text → Target
  | [] => .outside
  | step :: steps =>
    if Path.isVoidName step || step == upwards then followOutside steps
    else if Path.maxNameSize < step.utf8Size then .blocked
    else .missing

/-- Follows `steps` from the directory at `here`, through at most `links` links. -/
def follow (tree : FileTree) (links : Nat) (here : List Text) : List Text → Target
  | [] => .node here
  | step :: steps =>
    if tree.node? here ≠ some .directory then .blocked
    else if Path.isVoidName step then follow tree links here steps
    else if step = upwards then
      if here.isEmpty then followOutside steps else follow tree links here.dropLast steps
    else if Path.maxNameSize < step.utf8Size then .blocked
    else
      match tree.node? (here ++ [step]) with
      | none => .missing
      | some (.link target) =>
        match links with
        | 0 => .blocked
        | links + 1 =>
          let steps := Text.pieces Path.separator target ++ steps
          if Path.isAbsolute target then followOutside steps else follow tree links here steps
      | some _ => follow tree links (here ++ [step]) steps
termination_by steps => (links, steps.length)

/-- The number of links that a path may lead through. -/
def maxLinks : Nat := 40

/-- Where a path leads. -/
def resolve (tree : FileTree) (path : Text) : Target :=
  let steps := Text.pieces Path.separator path
  if path.isEmpty then .missing
  else if !Path.isUsable path then .blocked
  else if Path.isAbsolute path then followOutside steps
  else tree.follow maxLinks [] steps

/-- The entries of the directory at a path. -/
def entriesOf (tree : FileTree) (path : List Text) : List DirectoryEntry :=
  tree.nodes.filterMap fun (other, node) =>
    match other.getLast? with
    | some name =>
      if other.dropLast = path then
        some { name, isFile := match node with | .file _ => true | _ => false }
      else none
    | none => none

/-- The tree as a disk. -/
def disk (tree : FileTree) : Disk where
  directory path :=
    match tree.resolve path with
    | .missing => .missing
    | .blocked => .notListable
    | .outside => .items []
    | .node path =>
      match tree.node? path with
      | some .directory => .items ((tree.entriesOf path).map .entry)
      | _ => .notListable
  file path :=
    match tree.resolve path with
    | .missing => .missing
    | .blocked | .outside => .notReadable
    | .node path =>
      match tree.node? path with
      | some (.file (some text)) => .text text
      | _ => .notReadable

end FileTree
end LocaleText
