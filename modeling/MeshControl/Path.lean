/-!
Names of files inside of directories.
-/
namespace MeshControl.Path

/-- The name of a file below a directory. Nothing stands between the two if the directory is
empty or ends in a slash. -/
def join (directory file : String) : String :=
  if directory.isEmpty || directory.endsWith "/" then directory ++ file
  else directory ++ "/" ++ file

end MeshControl.Path
