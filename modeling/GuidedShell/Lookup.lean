import GuidedShell.World

/-! Which file a command name stands for. -/
namespace GuidedShell

/-- The first directory of the search path that has an entry of that name, with the name. -/
def World.search? (w : World) (search : Bytes) (step : FileName) : Option FilePath :=
  ((FilePath.searchList search).map (FilePath.join · step)).find? w.exist

/-- A name of one part is looked for along the search path. Any other is a path, relative to the
working directory or absolute. -/
def World.command? (w : World) (search : Bytes) (name : FilePath) : Option FilePath :=
  let asPath := if w.exist name then some name else none
  if FilePath.isAbsolute name then asPath
  else match FilePath.components name with
    | [] => none
    | [.here] => asPath <|> w.search? search FilePath.here
    | [c] => w.search? search c.step
    | _ => asPath

end GuidedShell
