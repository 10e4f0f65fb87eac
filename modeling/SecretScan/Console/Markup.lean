/-!
# Console markup

A text for a console is marked up: a name in square brackets opens a style, and the name
behind a slash closes it. What a console makes of marked-up text is its own affair, and so
is how it writes a text that is to be taken as it is. `Console.Tags` is a simple console.
-/

namespace SecretScan.Console

/-- What a console makes of the texts that it is given. -/
class Markup where
  /-- What is shown of a marked-up text, if its tags can be followed. -/
  shown? : String → Option String
  /-- A text that is to be taken as it is, written as marked-up text. -/
  escape : String → String
  /-- What is shown of a text without markup. -/
  unmarked : String → String

/-- The tag that opens a style. -/
def opening (style : String) : String := "[" ++ style ++ "]"

/-- The tag that closes a style. -/
def closing (style : String) : String := "[/" ++ style ++ "]"

/-- A text in a style. -/
def styled (style s : String) : String := opening style ++ s ++ closing style

end SecretScan.Console
