import MailMerge.Pairs
import MailMerge.Text.Utf8

/-! A tree of files, directories and links, and the paths into it. Relative paths start at
the root, which is the working directory. A name leads to a node, and several names may lead
to one, so that a file can be known under many names, or under none and still be held open.
-/

namespace MailMerge.Files

inductive Entry where
  | file (content : Bytes)
  | directory
  /-- A name that stands for a path, which starts where the link is. -/
  | link (target : String)
  deriving DecidableEq, Repr

/-- An entry with its permissions, and the time of its last change in nanoseconds. -/
structure Inode where
  entry : Entry
  mode : Nat
  time : Int
  deriving DecidableEq, Repr

/-- What a change leaves behind: its time, and the permissions that new entries do not get. -/
structure Stamp where
  time : Int
  mask : Nat
  deriving DecidableEq, Repr

/-- The names on the way from the root to an entry. -/
abbrev Route := List String

/-- The path of an entry of a directory. -/
def joinPath (directory name : String) : String :=
  if directory = "" ∨ directory.endsWith "/" then directory ++ name
  else directory ++ "/" ++ name

structure Tree where
  /-- The numbers of the nodes that routes lead to. The root itself has no number. -/
  places : List (Route × Nat)
  nodes : Array Inode
  stamp : Stamp
  deriving DecidableEq, Repr

/-- Why a path cannot be followed or used. -/
inductive FileError where
  | notFound
  | notDirectory
  | isDirectory
  | nameTooLong
  | zeroByte
  | alreadyThere
  | notEmpty
  | linkLoop
  | notLink
  | notPermitted
  /-- Any other error, by its number. -/
  | other (number : Nat) (reason : String)
  deriving DecidableEq, Repr

/-- What is wrong, in words. -/
def FileError.reason : FileError → String
  | notFound => "No such file or directory"
  | notDirectory => "Not a directory"
  | isDirectory => "Is a directory"
  | nameTooLong => "File name too long"
  | zeroByte => "file name contained an unexpected NUL byte"
  | alreadyThere => "File exists"
  | notEmpty => "Directory not empty"
  | linkLoop => "Too many levels of symbolic links"
  | notLink => "Invalid argument"
  | notPermitted => "Operation not permitted"
  | other _ reason => reason

/-- The number of the error, if it has one. -/
def FileError.number? : FileError → Option Nat
  | notPermitted => some 1
  | notFound => some 2
  | alreadyThere => some 17
  | notDirectory => some 20
  | isDirectory => some 21
  | notLink => some 22
  | nameTooLong => some 36
  | notEmpty => some 39
  | linkLoop => some 40
  | other number _ => some number
  | zeroByte => none

def FileError.message (e : FileError) : String :=
  match e.number? with
  | some number => s!"{e.reason} (os error {number})"
  | none => e.reason

namespace Tree

/-- The first moment: the first of January 2025. -/
def firstTime : Int := 1735689600 * 1000000000

def empty : Tree where
  places := []
  nodes := #[]
  stamp := { time := firstTime, mask := 18 }

instance : Inhabited Tree where
  default := empty

/-! ### Looking -/

/-- What a node that is a file holds. -/
def contentOf? (tree : Tree) (i : Nat) : Option Bytes :=
  match (tree.nodes[i]?).map Inode.entry with
  | some (.file content) => some content
  | _ => none

/-- The node that stands at a route. -/
def nodeAt? (tree : Tree) (route : Route) : Option Inode :=
  (tree.places.lookup route).bind fun i => tree.nodes[i]?

def find? (tree : Tree) (route : Route) : Option Entry :=
  if route = [] then some .directory else (tree.nodeAt? route).map Inode.entry

/-- The entries below the root, each with its route. -/
def entries (tree : Tree) : List (Route × Entry) :=
  tree.places.filterMap fun (route, i) => (tree.nodes[i]?).map fun node => (route, node.entry)

/-- The longest name that an entry may have, in bytes. -/
def maxNameBytes : Nat := 255

/-- Follows one name of a path; the place reached may be vacant. -/
def follow (tree : Tree) (here : Route) (name : String) : Except FileError Route :=
  match tree.find? here with
  | none => .error .notFound
  | some .directory =>
      if name = "" ∨ name = "." then .ok here
      else if name = ".." then .ok here.dropLast
      else if maxNameBytes < name.utf8ByteSize then .error .nameTooLong
      else .ok (here ++ [name])
  | some _ => .error .notDirectory

/-- The path under which the root is known. -/
def rootPath : String := "/tmp/work"

/-- The names of a path are what stands between its slashes. -/
def namesOf (path : String) : List String :=
  (path.toList.splitOn '/').map String.ofList

/-- The names of a path and the place where it starts, seen from a directory. What is not
below the root is reached from an entry of its own.
-/
def start (here : Route) (path : String) : Route × List String :=
  if path = rootPath then ([], [])
  else if path.startsWith (rootPath ++ "/") then
    ([], namesOf (path.drop rootPath.length).toString)
  else (if path.startsWith "/" then ["/"] else here, namesOf path)

/-- How many links may be followed on the way. -/
def maxHops : Nat := 40

/-- Follows names from a directory on, through so many links at most. A link at the end is
followed on request, or if more than a name stands behind it.
-/
def walk (tree : Tree) (followsLast : Bool) (hops : Nat) (here : Route)
    : List String → Except FileError Route
  | [] => .ok here
  | name :: names =>
      match tree.follow here name with
      | .error e => .error e
      | .ok next =>
          match tree.find? next with
          | some (.link target) =>
              if names = [] ∧ !followsLast then .ok next
              else
                match hops with
                | 0 => .error .linkLoop
                | hops + 1 =>
                    let (place, way) := start here target
                    walk tree followsLast hops place (way ++ names)
          | _ => walk tree followsLast hops next names
termination_by names => (hops, names.length)

/-- The longest path that can be followed, in bytes. -/
def maxPathBytes : Nat := 4095

/-- The route that a path leads to; its last entry need not exist. -/
def resolveWith (tree : Tree) (followsLast : Bool) (path : String) : Except FileError Route :=
  if path.toList.contains '\x00' then .error .zeroByte
  else if path = "" then .error .notFound
  else if maxPathBytes < path.utf8ByteSize then .error .nameTooLong
  else
    let (here, names) := start [] path
    tree.walk followsLast maxHops here names

def resolve (tree : Tree) (path : String) : Except FileError Route :=
  tree.resolveWith true path

/-- The route of the entry that a path names, be it a link. -/
def resolveName (tree : Tree) (path : String) : Except FileError Route :=
  tree.resolveWith false path

/-- What stands at a place that has been found. -/
def entryAt (tree : Tree) (place : Except FileError Route) : Except FileError Entry :=
  match place with
  | .error e => .error e
  | .ok route =>
      match tree.find? route with
      | some entry => .ok entry
      | none => .error .notFound

def stat (tree : Tree) (path : String) : Except FileError Entry :=
  tree.entryAt (tree.resolve path)

/-- The entry that a path names, be it a link. -/
def statName (tree : Tree) (path : String) : Except FileError Entry :=
  tree.entryAt (tree.resolveName path)

def read (tree : Tree) (path : String) : Except FileError Bytes :=
  match tree.stat path with
  | .error e => .error e
  | .ok (.file content) => .ok content
  | .ok _ => .error .isDirectory

/-- The entries right below a route, each by its name. The root of absolute paths is below
no directory.
-/
def children (tree : Tree) (route : Route) : List (String × Entry) :=
  tree.entries.filterMap fun (place, entry) =>
    place.getLast?.bind fun name =>
      if place = route ++ [name] ∧ name ≠ "/" then some (name, entry) else none

/-- The entries of a directory. -/
def list (tree : Tree) (path : String) : Except FileError (List (String × Entry)) :=
  match tree.resolve path with
  | .error e => .error e
  | .ok route =>
      match tree.find? route with
      | none => .error .notFound
      | some .directory => .ok (tree.children route)
      | some _ => .error .notDirectory

/-! ### Paths -/

/-- The route that a path leads to where all its directories are there. -/
def routeOf (path : String) : Route :=
  let (here, names) := start [] path
  names.foldl
    (fun here name =>
      if name = "" ∨ name = "." then here
      else if name = ".." then here.dropLast
      else here ++ [name])
    here

/-- The path of a route. -/
def pathOf : Route → String
  | "/" :: names => "/" ++ "/".intercalate names
  | names => "/".intercalate names

/-! ### Placing -/

/-- The permissions of a new entry. -/
def Stamp.modeFor (stamp : Stamp) : Entry → Nat
  | .file _ => 0o666 - (0o666 &&& stamp.mask)
  | .directory => 0o777 - (0o777 &&& stamp.mask)
  | .link _ => 0o777

/-- Changes a node. -/
def setNode (tree : Tree) (i : Nat) (change : Inode → Inode) : Tree :=
  { tree with nodes := tree.nodes.modify i change }

/-- Gives a node that is a file its content. -/
def fill (tree : Tree) (i : Nat) (content : Bytes) : Tree :=
  tree.setNode i fun node => { node with entry := .file content, time := tree.stamp.time }

/-- Changes the node at a route. -/
def setNodeAt (tree : Tree) (route : Route) (change : Inode → Inode) : Tree :=
  match tree.places.lookup route with
  | some i => tree.setNode i change
  | none => tree

/-- Notes that a directory has changed. -/
def touch (tree : Tree) (route : Route) : Tree :=
  tree.setNodeAt route fun node => { node with time := tree.stamp.time }

/-- Puts an entry at a route. What stands there keeps its permissions. -/
def put (tree : Tree) (route : Route) (entry : Entry) : Tree :=
  let time := tree.stamp.time
  match tree.places.lookup route with
  | some i => tree.setNode i fun node => { node with entry, time }
  | none =>
      let node : Inode := { entry, mode := Stamp.modeFor tree.stamp entry, time }
      { tree with
        places := tree.places ++ [(route, tree.nodes.size)]
        nodes := tree.nodes.push node }.touch route.dropLast

/-- Gives a file its content, making the file if it is not there. -/
def write (tree : Tree) (path : String) (content : Bytes) : Except FileError Tree :=
  match tree.resolve path with
  | .error e => .error e
  | .ok route =>
      match tree.find? route with
      | some .directory => .error .isDirectory
      | _ => .ok (tree.put route (.file content))

/-- Puts content behind what a file holds, making the file if it is not there. -/
def append (tree : Tree) (path : String) (content : Bytes) : Except FileError Tree :=
  tree.write path ((tree.read path).toOption.getD [] ++ content)

/-- Makes a directory and those above it. -/
def makeDirectories (tree : Tree) (route : Route) : Tree :=
  (List.range (route.length + 1)).foldl
    (fun tree depth =>
      let above := route.take depth
      if (tree.find? above).isSome then tree else tree.put above .directory)
    tree

/-- Puts a file at a path whose directories are made on the way. -/
def plant (tree : Tree) (path : String) (content : Bytes) : Tree :=
  let route := routeOf path
  (tree.makeDirectories route.dropLast).put route (.file content)

def plantDirectory (tree : Tree) (path : String) : Tree :=
  tree.makeDirectories (routeOf path)

end Tree

end MailMerge.Files
