import DocStore.Error

/-!
# Directories

The texts of files by their places. A folder is there as long as a file lies in it.
-/

namespace DocStore.CommandLine

abbrev Place := List String

namespace Place

private def pieces : List Char → List Char × List (List Char)
  | [] => ([], [])
  | c :: s =>
    let (first, more) := pieces s
    if c == '/' then ([], first :: more) else (c :: first, more)

def ofPath (path : String) : Place :=
  let (first, more) := pieces path.toList
  (first :: more).foldl
    (fun place piece =>
      match piece with
      | [] | ['.'] => place
      | ['.', '.'] => place.dropLast
      | name => place ++ [String.ofList name])
    []

def isInside (place folder : Place) : Bool :=
  folder.length < place.length && place.take folder.length == folder

end Place

structure Directory where
  files : List (Place × String) := []

namespace Directory

def ofFiles (files : List (String × String)) : Directory :=
  ⟨files.map fun (path, text) => (Place.ofPath path, text)⟩

def text? (d : Directory) (place : Place) : Option String := d.files.lookup place

def isFolder (d : Directory) (place : Place) : Bool :=
  place.isEmpty || d.files.any fun (other, _) => other.isInside place

/-- Reads a file; none if there is nothing at the place. -/
def read? (d : Directory) (place : Place) : Except Error (Option String) :=
  if d.isFolder place then .error .file else .ok (d.text? place)

/-- Writes a file; folders on the way are made. No file lies at a folder or inside a file. -/
def write (d : Directory) (place : Place) (text : String) : Except Error Directory :=
  if d.isFolder place || d.files.any (fun (other, _) => place.isInside other) then .error .file
  else .ok ⟨(place, text) :: d.files.filter (·.1 != place)⟩

end Directory

end DocStore.CommandLine
