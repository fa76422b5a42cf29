/-
This file splits bare specifiers into a package and a path inside it.
-/

namespace ModuleGraph.PackageName

/-- What stands before and after a slash, with `skipped` slashes in between passed over. -/
def splitAtSlash (skipped : Nat) : List Char → List Char × Option (List Char)
  | [] => ([], none)
  | char :: rest =>
      match char, skipped with
      | '/', 0 => ([], some rest)
      | '/', skipped + 1 =>
          let (front, back) := splitAtSlash skipped rest
          ('/' :: front, back)
      | char, skipped =>
          let (front, back) := splitAtSlash skipped rest
          (char :: front, back)

/-- The package and the path inside it; the name of a scoped package holds one slash. -/
def split (specifier : String) : String × Option String :=
  let skipped := if specifier.toList.head? == some '@' then 1 else 0
  let (package, subpath) := splitAtSlash skipped specifier.toList
  (String.ofList package, subpath.map String.ofList)

end ModuleGraph.PackageName
