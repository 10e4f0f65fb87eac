import SecretScan.Pattern.Build
import SecretScan.Pattern.Match

/-!
# Literals that can be rewritten

For some rules the literal that holds the secret can be found again in the text of
a whole file: what stands before it, a quote, the body, and the same quote. The
order of the rules is the order in which they claim literals, so that an address
of a database is claimed before the mail address inside it.
-/

namespace SecretScan.Rewrite

open Pattern

/-- The group of what stands before a literal and is kept. -/
def prefixGroup : Nat := 1

/-- The group of the quote that opens a literal. -/
def quoteGroup : Nat := 2

/-- The group of what stands between the quotes. -/
def bodyGroup : Nat := 3

/-- A literal: what stands before it, a quote, the body, and the same quote. -/
def literal (before body : Pattern) : Pattern :=
  ofList
    [group prefixGroup before, group quoteGroup quote, group bodyGroup body,
      again .exact quoteGroup]

/-- The value behind the name of an API key. -/
def apiKeyLiteral : Pattern :=
  literal
    (ofList
      [alt (ofList [textAnyCase "api", optional (charOf "_-"), textAnyCase "key"])
        (textAnyCase "apikey"),
        blanks, charOf ":=", blanks])
    (atLeast 1 (.noneOf "\"'"))

/-- A literal that is the address of a database. -/
def databaseLiteral : Pattern :=
  literal empty
    (ofList
      [wordOf ["mongodb", "mysql", "postgres", "postgresql", "redis"], textAnyCase "://",
        many (.noneOf "\"'")])

/-- A literal that begins like a web token. -/
def jwtLiteral : Pattern :=
  literal empty (ofList [text "eyJ", many (.noneOf "\"'")])

/-- A literal that looks like a mail address. -/
def emailLiteral : Pattern :=
  literal empty
    (ofList
      [many (.noBlankNor "\"'"), text "@", atLeast 1 (.noBlankNor "\"'")])

/-- The rule whose literals may hold a scheme in front of the secret. -/
def emailRule : String := "Email Address"

/-- The rules whose literals are rewritten, in the order in which they claim them. -/
def literals : List (String × Pattern) :=
  [("API Key (Generic)", apiKeyLiteral), ("Database URL", databaseLiteral),
   ("JWT Token", jwtLiteral), (emailRule, emailLiteral)]

/-- Whether findings of a rule are rewritten. -/
def isRewritable (rule : String) : Bool :=
  (literals.lookup rule).isSome

end SecretScan.Rewrite
