import SecretScan.Rule

/-!
# The catalog of secrets

Rules for keys, tokens, passwords and addresses that should not stand in a
source. Matches that carry one of the usual marks of a made-up value are dropped.
-/

namespace SecretScan.Secrets

open Pattern

/-- An address: a local part, an at sign, and a domain that ends in letters. -/
def emailPattern : Pattern :=
  ofList
    [wordEdge, atLeast 1 (.within .exact [('A', 'Z'), ('a', 'z'), ('0', '9')] "._%+-"), text "@",
      atLeast 1 (.within .exact [('A', 'Z'), ('a', 'z'), ('0', '9')] ".-"), text ".",
      atLeast 2 (.within .exact [('A', 'Z'), ('a', 'z')] ""), wordEdge]

/-- The name of an API key in front of its value. -/
def apiKeyName : Pattern :=
  alt (ofList [textAnyCase "api", optional (charOf "_-"), textAnyCase "key"]) (textAnyCase "apikey")

/-- An API key in quotes after its name. -/
def apiKeyPattern : Pattern :=
  ofList
    [apiKeyName, blanks, charOf ":=", blanks, quote,
      group 1 (atLeast 16 (.alphanumericOr .unicode "_-")), quote]

/-- The identifier of an access key. -/
def awsKeyIdPattern : Pattern :=
  ofList [text "AKIA", count 16 (.within .exact [('0', '9'), ('A', 'Z')] "")]

/-- A secret access key in quotes after its name. -/
def awsSecretPattern : Pattern :=
  ofList
    [optional quote, textAnyCase "aws", optional (charOf "_-"), textAnyCase "secret",
      optional (charOf "_-"), textAnyCase "key", optional quote, blanks, charOf ":=", blanks, quote,
      group 1 (count 40 (.alphanumericOr .unicode "/+=")), quote]

/-- A token of a code host. -/
def githubPattern : Pattern :=
  ofList
    [text "gh", charOf "pousr", text "_",
      atLeast 36 (.within .exact [('A', 'Z'), ('a', 'z'), ('0', '9')] "_")]

/-- Digits and letters as payment keys use them. -/
def digitOrLetter : CharTest :=
  .within .exact [('0', '9'), ('a', 'z'), ('A', 'Z')] ""

/-- A payment key for live use. -/
def stripePattern : Pattern :=
  ofList [text "sk_live_", atLeast 24 digitOrLetter]

/-- A payment key for tests. -/
def stripeTestPattern : Pattern :=
  ofList [text "sk_test_", atLeast 24 digitOrLetter]

/-- The first line of a private key. -/
def privateKeyPattern : Pattern :=
  ofList
    [text "-----BEGIN ",
      optional (anyOf [text "RSA ", text "DSA ", text "EC ", text "OPENSSH "]),
      text "PRIVATE KEY-----"]

/-- The scheme of a database address. -/
def databaseScheme : Pattern :=
  wordOf ["mongodb", "mysql", "postgres", "postgresql", "redis"]

/-- The address of a database. -/
def databasePattern : Pattern :=
  ofList [databaseScheme, textAnyCase "://", atLeast 1 (.noBlankNor "\"'")]

/-- A bearer token after its announcement. -/
def bearerPattern : Pattern :=
  ofList
    [charOf "Bb", text "earer", someBlanks, group 1 (atLeast 1 (.alphanumericOr .exact "_-.="))]

/-- A password in quotes after its name. -/
def passwordPattern : Pattern :=
  ofList
    [wordOf ["password", "passwd", "pwd"], blanks, charOf ":=", blanks, quote,
      group 1 (atLeast 4 (.noneOf "\"'")), quote]

/-- A token of a chat service. -/
def slackPattern : Pattern :=
  ofList [text "xox", charOf "baprs", text "-", times .greedy 10 (some 48) (one digitOrLetter)]

/-- The characters of a part of a web token. -/
def webTokenChar : CharTest := .alphanumericOr .exact "_-"

/-- A signed web token: three parts, of which two begin like an encoded object. -/
def jwtPattern : Pattern :=
  ofList
    [text "eyJ", many webTokenChar, text ".eyJ", many webTokenChar, text ".", many webTokenChar]

/-- A key of a search company. -/
def googlePattern : Pattern :=
  ofList [text "AIza", count 35 (.within .exact [('0', '9'), ('A', 'Z'), ('a', 'z')] "_-")]

/-- The rules, in the order in which they are applied to a line. -/
def rules : List Rule :=
  [{ name := "Email Address"
     pattern := emailPattern
     severity := .warning
     message := "Email address found in code"
     fix := "Move to environment variable: process.env.CONTACT_EMAIL" },
   { name := "API Key (Generic)"
     pattern := apiKeyPattern
     secretGroup := some 1
     severity := .error
     message := "API key detected"
     fix := "Use environment variable: process.env.API_KEY" },
   { name := "AWS Access Key ID"
     pattern := awsKeyIdPattern
     severity := .error
     message := "AWS Access Key ID found"
     fix := "Use AWS credentials file or environment variables" },
   { name := "AWS Secret Key"
     pattern := awsSecretPattern
     secretGroup := some 1
     severity := .error
     message := "AWS Secret Access Key found"
     fix := "Use AWS credentials file or environment variables" },
   { name := "GitHub Token"
     pattern := githubPattern
     severity := .error
     message := "GitHub token detected"
     fix := "Use environment variable: process.env.GITHUB_TOKEN" },
   { name := "Stripe Key"
     pattern := stripePattern
     severity := .error
     message := "Stripe live secret key found"
     fix := "Use environment variable: process.env.STRIPE_SECRET_KEY" },
   { name := "Stripe Test Key"
     pattern := stripeTestPattern
     severity := .warning
     message := "Stripe test key found"
     fix :=
       "Even test keys should be in environment variables: process.env.STRIPE_TEST_KEY" },
   { name := "Private Key"
     pattern := privateKeyPattern
     severity := .error
     message := "Private key detected"
     fix := "Store in secure key management system, never in code" },
   { name := "Database URL"
     pattern := databasePattern
     severity := .error
     message := "Database connection string found"
     fix := "Use environment variable: process.env.DATABASE_URL" },
   { name := "Bearer Token"
     pattern := bearerPattern
     secretGroup := some 1
     severity := .error
     message := "Bearer token detected"
     fix := "Use environment variable or secure token storage" },
   { name := "Password in Code"
     pattern := passwordPattern
     secretGroup := some 1
     severity := .error
     message := "Hardcoded password found"
     fix := "Use environment variable or secure credential storage" },
   { name := "Slack Token"
     pattern := slackPattern
     severity := .error
     message := "Slack token detected"
     fix := "Use environment variable: process.env.SLACK_TOKEN" },
   { name := "JWT Token"
     pattern := jwtPattern
     severity := .error
     message := "JWT token detected"
     fix := "Use environment variable or secure token storage" },
   { name := "Google API Key"
     pattern := googlePattern
     severity := .error
     message := "Google API key found"
     fix := "Use environment variable: process.env.GOOGLE_API_KEY" }]

/-- The catalog of secrets. -/
def catalog : Catalog :=
  { name := "secrets", rules }

end SecretScan.Secrets
