import Scaffold.Entrypoint

/-!
# Repository methods

A method of a repository is declared on the interface and implemented on the class of an
entity.  Both texts are made from one signature, so they agree by construction.
-/

namespace Scaffold

open Scaffold.Text

/-! ## Results -/

/-- What a handler or a repository method returns. -/
inductive Response where
  /-- One row or none. -/
  | single
  /-- A list of rows. -/
  | list
  /-- The identifier of a new row. -/
  | identifier
  /-- Whether the row was found. -/
  | flag
  /-- The number of rows changed. -/
  | count
deriving Repr, DecidableEq

/-- The type a response is returned as. -/
def Response.typeName (entity : String) : Response → String
  | .single => entity ++ "?"
  | .list => "IReadOnlyList<" ++ entity ++ ">"
  | .identifier => "Guid"
  | .flag => "bool"
  | .count => "int"

/-! ## Blocks of lines -/

/-- A line moved right by one level; an empty line stays empty. -/
def indentLine (line : String) : String := if line.isEmpty then "" else "    " ++ line

/-- A block moved right by one level. -/
def indentBlock (block : List String) : List String := block.map indentLine

/-- A body in braces below its head. -/
def braced (head : String) (body : List String) : List String :=
  [head, "\x7b"] ++ indentBlock body ++ ["\x7d"]

/-! ## Methods -/

/-- What the body of a repository method does. -/
inductive RowOperation where
  | findOne | listAll | listPage | insert | modify | remove
  /-- Stamp one row as changed. -/
  | touch
  /-- Save whatever is pending for the whole set. -/
  | saveAll
deriving Repr, DecidableEq

namespace RowOperation

/-- Every operation on rows. -/
def all : List RowOperation :=
  [.findOne, .listAll, .listPage, .insert, .modify, .remove, .touch, .saveAll]

/-- What an operation on rows returns. -/
def response : RowOperation → Response
  | .findOne => .single
  | .listAll | .listPage => .list
  | .insert => .identifier
  | .modify | .remove | .touch => .flag
  | .saveAll => .count

/-- The parameters before the cancellation token. -/
def parameters (entity : String) : RowOperation → String
  | .findOne | .remove | .touch => "Guid id, "
  | .listPage => "int page, int pageSize, "
  | .insert | .modify => entity ++ " entity, "
  | .listAll | .saveAll => ""

/-- The last statement of a body that reports whether a row changed. -/
def saveChanges : String :=
  "return await _context.SaveChangesAsync(cancellationToken) > 0;"

/-- Find the row of `id` in a set. -/
def findIn (set : String) : String :=
  "await " ++ set ++ ".FindAsync(new object[] \x7b id \x7d, cancellationToken)"

/-- Find the row of `id` and change it by `change`. -/
def changeFound (set change : String) : List String :=
  ["var entity = " ++ findIn set ++ ";", "if (entity is null)", "\x7b", "    return false;", "\x7d",
   "", change, saveChanges]

/-- The statements of an operation on the rows of a set. -/
def body (set : String) : RowOperation → List String
  | .findOne => ["return " ++ findIn set ++ ";"]
  | .listAll => ["return await " ++ set ++ ".AsNoTracking().ToListAsync(cancellationToken);"]
  | .listPage =>
      ["return await " ++ set, "    .AsNoTracking()", "    .OrderBy(x => x.CreatedAt)",
       "    .Skip((page - 1) * pageSize)", "    .Take(pageSize)",
       "    .ToListAsync(cancellationToken);"]
  | .insert =>
      [set ++ ".Add(entity);", "await _context.SaveChangesAsync(cancellationToken);",
       "return entity.Id;"]
  | .modify => [set ++ ".Update(entity);", saveChanges]
  | .remove => changeFound set (set ++ ".Remove(entity);")
  | .touch => changeFound set "entity.UpdatedAt = DateTime.UtcNow;"
  | .saveAll => ["return await _context.SaveChangesAsync(cancellationToken);"]

end RowOperation

/-- One asynchronous method of a repository. -/
structure RepositoryMethod where
  /-- The name, without the `Async` it is declared under. -/
  name : String
  /-- What it does. -/
  op : RowOperation
deriving Repr, DecidableEq

namespace RepositoryMethod

/-- The method that reads one row. -/
def getById : RepositoryMethod := ⟨"GetById", .findOne⟩

/-- The text whose presence on a line proves that the method is there. -/
def detection (m : RepositoryMethod) : String := Detection.repositoryMethod m.name

/-- Return type, name and parameters. -/
def signature (m : RepositoryMethod) (entity : String) : String :=
  "Task<" ++ m.op.response.typeName entity ++ "> " ++ m.name ++ "Async(" ++ m.op.parameters entity
    ++ "CancellationToken cancellationToken = default)"

/-- The declaration on the interface. -/
def contractBlock (m : RepositoryMethod) (entity : String) : List String :=
  [m.signature entity ++ ";"]

/-- The implementation on the class. -/
def implBlock (m : RepositoryMethod) (f : Feature) : List String :=
  braced ("public async " ++ m.signature f.name) (m.op.body ("_context." ++ f.plural))

end RepositoryMethod

end Scaffold
