import SecretScan.Console.Markup

/-!
# Console entries

What goes to a console is a text or a table. Both are marked up; a table is shown only
if all of its cells can be.
-/

namespace SecretScan.Console

/-- Something for a console. -/
inductive Entry where
  | text (s : String)
  | table (title : String) (columns : List String) (rows : List (List String))
deriving DecidableEq, Repr

/-- What a console shows of an entry. -/
def Entry.shown? [Markup] : Entry → Option Entry
  | text s => (Markup.shown? s).map .text
  | table title columns rows =>
    (rows.mapM (List.mapM Markup.shown?)).map (.table title columns)

end SecretScan.Console
