import SecretScan.Rule
import SecretScan.Text.Search

/-!
# The catalog of network faults

Rules for sensitive data in requests, responses and logs. Two checks look at the
text as a whole first: a request without any handling of its failure, and an error
object that is sent to the client as it is.
-/

namespace SecretScan.Network

open Pattern

/-- Everything up to a closing parenthesis. -/
def upToParen : Pattern := many (.noneOf ")")

/-- Everything up to a closing brace. -/
def upToBrace : Pattern := many (.noneOf "\x7d")

/-- A parenthesis that opens, between blanks. -/
def openParen : Pattern := ofList [blanks, text "(", blanks]

/-- A call of one of some methods of the console. -/
def consoleCall (methods : List String) : Pattern :=
  ofList [textAnyCase "console.", wordOf methods, openParen]

/-- Methods that write a line to the console. -/
def allLevels : List String := ["log", "debug", "info", "warn", "error"]

/-- The console shows a user. -/
def consoleUser : Pattern :=
  ofList [consoleCall allLevels, upToParen, wordOf ["user", "req.user", "auth.user"], upToParen,
    text ")"]

/-- The console shows a response. -/
def consoleResponse : Pattern :=
  ofList [consoleCall ["log", "debug", "info"], upToParen, wordOf ["response", "res", "data"],
    blanks, text ")"]

/-- The console shows an authorization header. -/
def consoleAuthorization : Pattern :=
  ofList [consoleCall allLevels, upToParen, wordOf ["authorization", "auth", "token", "header"],
    upToParen, text ")"]

/-- A name and a colon, between blanks. -/
def field (name : String) : Pattern := ofList [textAnyCase name, blanks, text ":", blanks]

/-- A quoted text that is not empty. -/
def quotedText : Pattern := ofList [quote, atLeast 1 (.noneOf "\"'"), quote]

/-- Options with an authorization header that is written out. -/
def writtenAuthorization : Pattern :=
  ofList [upToParen, text "\x7b", upToBrace, field "headers", text "\x7b", upToBrace,
    field "authorization", quotedText]

/-- A fetch with an authorization header that is written out. -/
def fetchAuthorization : Pattern :=
  ofList [textAnyCase "fetch", blanks, text "(", writtenAuthorization]

/-- The same with another client. -/
def axiosAuthorization : Pattern :=
  ofList [textAnyCase "axios.", wordOf ["get", "post", "put", "delete", "patch"], blanks, text "(",
    writtenAuthorization]

/-- The clients that make requests. -/
def client : Pattern := wordOf ["fetch", "axios", "XMLHttpRequest"]

/-- A key among the parameters of an address. -/
def keyInQuery : Pattern :=
  ofList [client, blanks, text "(", upToParen, text "?", upToParen,
    anyOf
      [ofList [textAnyCase "api", optional (charOf "_-"), textAnyCase "key"], textAnyCase "token",
        textAnyCase "auth"],
    text "="]

/-- A response that is sent. -/
def respond : Pattern := ofList [textAnyCase "res.", wordOf ["json", "send"], openParen]

/-- A response that holds a user. -/
def userInResponse : Pattern :=
  ofList [respond, text "\x7b", upToBrace, field "user", wordOf ["user", "req.user", "doc"]]

/-- A response that is a database record. -/
def recordAsResponse : Pattern :=
  ofList [respond, wordOf ["doc", "document", "result", "data"], blanks, text ")"]

/-- A response with a status that holds an error. -/
def errorInResponse : Pattern :=
  ofList [textAnyCase "res.", wordOf ["status", "sendStatus"], blanks, text "(",
    atLeast 1 (.noneOf ")"), text ")", blanks, text ".", blanks, wordOf ["json", "send"], openParen,
    text "\x7b", upToBrace, wordOf ["error", "stack", "message"], many .anyInLine, text "\x7d"]

/-- An error handler that writes the error to the console. -/
def consoleInHandler : Pattern :=
  ofList [textAnyCase "catch", blanks, text "(", upToParen, text ")", blanks, text "\x7b",
    upToBrace, consoleCall ["log", "error"], wordOf ["error", "err", "e"]]

/-- A client with an address that is written out. -/
def clientAddress : Pattern :=
  ofList [textAnyCase "axios.create", openParen, text "\x7b", upToBrace,
    wordOf ["baseURL", "url"], blanks, text ":", blanks, quote, many (.noneOf "\"'"),
    wordOf ["api", "internal", "admin"], many (.noneOf "\"'"), quote]

/-- Requests are allowed from everywhere. -/
def anyOrigin : Pattern :=
  ofList [wordOf ["cors", "Access-Control-Allow-Origin"], blanks, charOf ":=", blanks, quote,
    text "*"]

/-- A statement that stops in the debugger. -/
def debuggerStatement : Pattern := textAnyCase "debugger;"

/-- A note about something undone that concerns a secret. -/
def sensitiveNote : Pattern :=
  ofList [wordOf ["TODO", "FIXME", "XXX", "HACK"], blanks, optional (text ":"), blanks,
    many (.noneOf "\n"), wordOf ["auth", "token", "password", "secret", "key"]]

/-- The rules, in the order in which they are applied to a line. -/
def rules : List Rule :=
  [{ name := "Console Log with User Object"
     pattern := consoleUser
     severity := .error
     message := "Console logging may expose user data"
     fix := "Use a structured logger with data redaction"
     category := some .logging },
   { name := "Console Log with API Response"
     pattern := consoleResponse
     severity := .warning
     message := "Console logging API responses may expose sensitive data"
     fix := "Log only necessary fields, never full responses"
     category := some .logging },
   { name := "Console Log with Authorization Header"
     pattern := consoleAuthorization
     severity := .error
     message := "Never log authorization headers or tokens"
     fix := "Remove logging of auth headers immediately"
     category := some .logging },
   { name := "Fetch with Hardcoded Authorization"
     pattern := fetchAuthorization
     severity := .error
     message := "Hardcoded authorization header in fetch request"
     fix := "Use environment variables for tokens"
     category := some .request },
   { name := "Axios with Hardcoded Authorization"
     pattern := axiosAuthorization
     severity := .error
     message := "Hardcoded authorization header in axios request"
     fix := "Use environment variables or request interceptors"
     category := some .request },
   { name := "API Key in Query Parameters"
     pattern := keyInQuery
     severity := .error
     message := "API key exposed in URL query parameters"
     fix := "Move API keys to headers or request body"
     category := some .request },
   { name := "Return Full User Object in Response"
     pattern := userInResponse
     severity := .error
     message := "API response may expose full user object with sensitive fields"
     fix := "Select only necessary fields before sending response"
     category := some .response },
   { name := "Return Database Document Directly"
     pattern := recordAsResponse
     severity := .warning
     message := "Returning database documents may expose internal fields"
     fix := "Map database results to DTOs before returning"
     category := some .response },
   { name := "Error Response with Stack Trace"
     pattern := errorInResponse
     severity := .error
     message := "Error response may expose stack traces or internal errors"
     fix := "Return generic error messages to clients, log details server-side"
     category := some .errorHandling },
   { name := "Console Log in Error Handler"
     pattern := consoleInHandler
     severity := .warning
     message := "Error logged to console may expose sensitive context"
     fix := "Use proper error tracking service (Sentry, etc.)"
     category := some .errorHandling },
   { name := "Axios Instance with Hardcoded Config"
     pattern := clientAddress
     severity := .warning
     message := "Hardcoded API URLs in axios configuration"
     fix := "Use environment variables for API base URLs"
     category := some .request },
   { name := "Wildcard CORS Origin"
     pattern := anyOrigin
     severity := .warning
     message := "Wildcard CORS allows requests from any origin"
     fix := "Specify allowed origins explicitly"
     category := some .request },
   { name := "Debugger Statement"
     pattern := debuggerStatement
     severity := .error
     message := "Debugger statement should not be in production code"
     fix := "Remove debugger statements before deployment"
     category := some .logging },
   { name := "TODO/FIXME with Sensitive Context"
     pattern := sensitiveNote
     severity := .warning
     message := "Comment may indicate incomplete security implementation"
     fix := "Review and address security TODOs before deployment"
     category := some .logging }]

/-- A fetch whose result is used without more. -/
def fetchThen : Pattern :=
  ofList [textAnyCase "fetch", blanks, text "(", atLeast 1 (.noneOf ")"), text ")", blanks,
    textAnyCase ".then", blanks, text "("]

/-- A call that handles a failure. -/
def catchCall : Pattern := ofList [textAnyCase ".catch", blanks, text "("]

/-- As few characters as possible, line feeds included. -/
def anything : Pattern :=
  times .lazy 0 none
    (one (.oneOf .exact false [.cls .blank .unicode false, .cls .blank .unicode true]))

/-- A request somewhere between a try and a catch. -/
def tryAroundRequest : Pattern :=
  ofList [textAnyCase "try", blanks, text "\x7b", anything, client, anything, text "\x7d", blanks,
    textAnyCase "catch"]

/-- A response that is the error itself. -/
def errorAsResponse : Pattern :=
  ofList [respond, wordOf ["error", "err"], blanks, text ")"]

/-- Whether a text handles failures of its requests: a try around a request, or any
call that handles a failure. -/
def handlesErrors (s : List Char) : Bool :=
  tryAroundRequest.occursIn s || catchCall.occursIn s

/-- The checks, in the order in which they are applied. -/
def checks : List ContentCheck :=
  [{ name := "Missing Error Handler"
     description := "Promise without catch block may expose unhandled errors"
     severity := .warning
     category := .errorHandling
     locate := fun s =>
       if handlesErrors s then [] else ContentCheck.hitsOnLines fetchThen 1 (Text.lines s) },
   { name := "Raw Error in Response"
     description := "Raw error objects sent in responses"
     severity := .error
     category := .errorHandling
     locate := fun s => ContentCheck.hitsOnLines errorAsResponse 1 (Text.lines s) }]

/-- The catalog of network faults. -/
def catalog : Catalog :=
  { name := "network", rules, checks, suppress := false }

/-- How many findings there are of each category. -/
def summary (findings : List Finding) : List (Category × Nat) :=
  Category.all.map fun c => (c, findings.countP (·.category = some c))

end SecretScan.Network
