/-!
# Names for environment variables

Each rule has a base name. Within one run a name is given out once; when it is
taken, the base name gets the lowest number that makes it free.
-/

namespace SecretScan.Env

/-- The base names of the rules that have one of their own. -/
def baseNames : List (String × String) :=
  [("API Key (Generic)", "API_KEY"),
   ("AWS Access Key ID", "AWS_ACCESS_KEY_ID"),
   ("AWS Secret Key", "AWS_SECRET_ACCESS_KEY"),
   ("GitHub Token", "GITHUB_TOKEN"),
   ("Stripe Key", "STRIPE_SECRET_KEY"),
   ("Stripe Test Key", "STRIPE_TEST_KEY"),
   ("Database URL", "DATABASE_URL"),
   ("Bearer Token", "API_TOKEN"),
   ("Slack Token", "SLACK_TOKEN"),
   ("JWT Token", "JWT_SECRET"),
   ("Google API Key", "GOOGLE_API_KEY"),
   ("Password in Code", "PASSWORD"),
   ("Email Address", "CONTACT_EMAIL")]

/-- The base name of a rule without one of its own. -/
def defaultName : String := "SECRET"

/-- The base name for the findings of a rule. -/
def baseName (rule : String) : String :=
  (baseNames.lookup rule).getD defaultName

/-- The `index`-th name over a base: the base itself, then the base with a number. -/
def numbered (base : String) : Nat → String
  | 0 => base
  | index + 1 => base ++ "_" ++ toString (index + 1)

/-- The first name over a base, from `index` on, that is not taken. Among one more
names than are taken there is always a free one. -/
def firstFree (taken : List String) (base : String) (index : Nat) : Nat → String
  | 0 => numbered base index
  | budget + 1 =>
    if taken.contains (numbered base index) then firstFree taken base (index + 1) budget
    else numbered base index

/-- The names that are taken. -/
structure NamePool where
  taken : List String := []
deriving DecidableEq, Repr

namespace NamePool

/-- Gives out a name for a finding of a rule and takes it. -/
def allocate (pool : NamePool) (rule : String) : String × NamePool :=
  let name := firstFree pool.taken (baseName rule) 0 pool.taken.length
  (name, ⟨name :: pool.taken⟩)

end NamePool

end SecretScan.Env
