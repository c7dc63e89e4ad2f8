import MailMerge.Files.Tree

/-! Changes to a tree of files: entries are made, removed, moved and named anew. -/

namespace MailMerge.Files.Tree

/-- Takes away the names at a route and below it. -/
def prune (tree : Tree) (route : Route) : Tree :=
  { tree with places := tree.places.filter fun place => !route.isPrefixOf place.1 }.touch
    route.dropLast

/-- Whether nothing stands below a route. -/
def isBare (tree : Tree) (route : Route) : Bool :=
  !tree.places.any fun place => route.isPrefixOf place.1 && place.1 ≠ route

/-- The places at a route and below it, by the ways to them from there. -/
def below (tree : Tree) (route : Route) : List (Route × Entry) :=
  tree.entries.filterMap fun entry =>
    if route.isPrefixOf entry.1 then some (entry.1.drop route.length, entry.2) else none

/-- Makes an entry at a route where nothing stands yet. -/
def make (tree : Tree) (path : String) (entry : Entry) : Except FileError Tree :=
  match tree.resolveName path with
  | .error e => .error e
  | .ok route =>
      if (tree.find? route).isSome then .error .alreadyThere else .ok (tree.put route entry)

/-- Makes one directory, where nothing stands yet. -/
def makeDirectory (tree : Tree) (path : String) : Except FileError Tree :=
  tree.make path .directory

/-- Removes an entry and all below it. -/
def remove (tree : Tree) (path : String) : Except FileError Tree :=
  match tree.resolveName path with
  | .error e => .error e
  | .ok route =>
      if (tree.find? route).isNone then .error .notFound else .ok (tree.prune route)

/-- Removes a file or a link. -/
def removeFile (tree : Tree) (path : String) : Except FileError Tree :=
  match tree.resolveName path with
  | .error e => .error e
  | .ok route =>
      match tree.find? route with
      | none => .error .notFound
      | some .directory => .error .isDirectory
      | some _ => .ok (tree.prune route)

/-- Removes a directory that nothing stands in. -/
def removeDirectory (tree : Tree) (path : String) : Except FileError Tree :=
  match tree.resolveName path with
  | .error e => .error e
  | .ok route =>
      match tree.find? route with
      | none => .error .notFound
      | some .directory =>
          if tree.isBare route then .ok (tree.prune route) else .error .notEmpty
      | some _ => .error .notDirectory

/-- Names a node at another route too. -/
def name (tree : Tree) (i : Nat) (route : Route) : Tree :=
  { tree with places := Pairs.assign route i tree.places }.touch route.dropLast

/-- Moves what stands at a route and below it. What stood at the new place goes away. -/
def relocate (tree : Tree) (source target : Route) : Tree :=
  let moved := (tree.places.filter fun place => source.isPrefixOf place.1).map
    fun place => (target ++ place.1.drop source.length, place.2)
  let tree := (tree.prune source).prune target
  { tree with places := tree.places ++ moved }

/-- Gives the node at a route its permissions. -/
def setMode (tree : Tree) (route : Route) (mode : Nat) : Tree :=
  tree.setNodeAt route fun node => { node with mode }

/-- Gives the node at a route the time of its last change. -/
def setTime (tree : Tree) (route : Route) (time : Int) : Tree :=
  tree.setNodeAt route fun node => { node with time }

/-- How many names lead to a node; a directory is also known to itself and to those below. -/
def countNames (tree : Tree) (route : Route) : Nat :=
  match tree.find? route with
  | some .directory =>
      2 + ((tree.children route).filter fun entry => entry.2 = .directory).length
  | _ =>
      match tree.places.lookup route with
      | some i => (tree.places.filter fun place => place.2 = i).length
      | none => 0

end MailMerge.Files.Tree
