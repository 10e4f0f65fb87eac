import SecretScan.Config.Load
import SecretScan.Proofs.Files.Disk
import SecretScan.Proofs.Text.LineEnds
import SecretScan.Proofs.Yaml.LongNumber

/-!
# Where a setting comes from

Each setting comes from the highest layer that says something about it: what is asked for
directly, then the variables of the environment, then the file of the project, then the
defaults. No setting depends on what a layer says about another one.

Settings are checked twice, with and without what is asked for directly. So something that is
wrong below stops a load even where it would be overridden. Nothing else stops it once the file
has been read as a document, except that the document may have a number in it that is too long
to be written (`load_layered`).
-/

namespace SecretScan

open Files (Disk)
open Yaml (Value)

namespace Config

/-! ## Layers -/

/-- What one source says about the settings. -/
structure Layer where
  extensions : Option (List String)
  exclude : Option (List String)
  severity : Option String
  rulesFile : Option FilePath

/-- What the sources together say: the upper one, where it says something. -/
def Layer.over (upper lower : Layer) : Layer where
  extensions := upper.extensions.or lower.extensions
  exclude := upper.exclude.or lower.exclude
  severity := upper.severity.or lower.severity
  rulesFile := upper.rulesFile.or lower.rulesFile

/-- The settings of a layer on top of the defaults. -/
def Layer.settings (layer : Layer) (source : Option FilePath) : Config where
  extensions := layer.extensions.getD defaultExtensions
  exclude := layer.exclude.getD defaultExclude
  severity := layer.severity.getD "all"
  rulesFile := layer.rulesFile
  source := source

/-- What is asked for directly. -/
def ofOverrides (o : ConfigOverrides) : Layer where
  extensions := if o.extensions.isEmpty then none else some o.extensions
  exclude := if o.exclude.isEmpty then none else some o.exclude
  severity := if o.severity = "" then none else some (Text.lowerText o.severity)
  rulesFile := if o.rulesFile = "" then none else some (FilePath.ofString o.rulesFile)

/-- What the environment says; a variable without text says nothing. -/
def ofVariables (v : ConfigVariables) : Layer where
  extensions := (given v.extensions).map splitList
  exclude := (given v.exclude).map splitList
  severity := (given v.severity).map fun s =>
    Text.lowerText (String.ofList (Text.trimBlanks s.toList))
  rulesFile := (given v.rules).map FilePath.ofString

/-- What a document says that lies in a directory. -/
def ofDocument (directory : FilePath) (document : Value) : Layer where
  extensions := (document.field? "extensions").bind fun v => (listSetting "extensions" v).toOption
  exclude := (document.field? "exclude").bind fun v => (listSetting "exclude" v).toOption
  severity := (document.field? "severity").bind fun v => v.toText.toOption.map Text.lowerText
  rulesFile := ((document.field? "rules").filter Value.isTrue).bind fun v =>
    v.toText.toOption.map fun s => directory.join (FilePath.ofString s)

/-! ## The file of a project -/

/-- The directory that a path of a project means. -/
inductive InDirectory (d : Disk) (project : String) : FilePath → Prop
  | file : d.isFile (FilePath.ofString project).toString = .ok true →
      InDirectory d project (FilePath.ofString project).parent
  | directory : d.isFile (FilePath.ofString project).toString = .ok false →
      InDirectory d project (FilePath.ofString project)

/-- A file with settings in a directory, under one of the names that it may have. -/
def candidate (directory : FilePath) (name : String) : FilePath :=
  directory.join (FilePath.ofString name)

/-- The file with settings in a directory, if there is one. -/
inductive Located (d : Disk) (directory : FilePath) : Option FilePath → Prop
  | first : d.isFile (candidate directory ".vibecurb.yml").toString = .ok true →
      Located d directory (some (candidate directory ".vibecurb.yml"))
  | second : d.isFile (candidate directory ".vibecurb.yml").toString = .ok false →
      d.isFile (candidate directory ".vibecurb.yaml").toString = .ok true →
      Located d directory (some (candidate directory ".vibecurb.yaml"))
  | none : d.isFile (candidate directory ".vibecurb.yml").toString = .ok false →
      d.isFile (candidate directory ".vibecurb.yaml").toString = .ok false →
      Located d directory Option.none

/-- The document in a file with settings. One that counts as nothing is one without fields, and
so is a file that is not there. -/
inductive Holds [Yaml.SetOrder] (d : Disk) : Option FilePath → Value → Prop
  | file {file : FilePath} {s : List Char} {document : Value} :
      d.readLines file.toString = .ok s → read s = .ok document →
      Holds d (some file) (if document.isTrue then document else .map [])
  | none : Holds d Option.none (.map [])

/-- The directory of a file, if there is one. -/
def directoryOf : Option FilePath → FilePath
  | some file => file.parent
  | none => FilePath.ofString ""

/-- The settings that are in force. -/
def inForce (file : Option FilePath) (document : Value) (v : ConfigVariables)
    (o : ConfigOverrides) : Config :=
  ((ofOverrides o).over ((ofVariables v).over (ofDocument (directoryOf file) document))).settings
    file

/-! ## What is refused -/

/-- A text or a list. -/
def isListing : Value → Bool
  | .text _ | .list _ => true
  | _ => false

/-- The keys of a document that count. -/
def settingKeys : List String := listKeys ++ ["severity", "rules"]

/-- What is wrong with a document. -/
inductive Misshapen (document : Value) : Prop
  | notAMapping : (∀ fields, document ≠ .map fields) → Misshapen document
  | notAList {key : String} {v : Value} : key ∈ listKeys → document.field? key = some v →
      isListing v = false → Misshapen document
  | overlong {key : String} : key ∈ settingKeys → document.IsOverlong key → Misshapen document

/-- Settings with which nothing can be scanned. -/
def Useless (c : Config) : Prop := c.severity ∉ SeverityFilter.names ∨ c.extensions = []

/-- Why settings are refused, with what is asked for directly or already without it. -/
inductive Refused (file : Option FilePath) (document : Value) (v : ConfigVariables)
    (o : ConfigOverrides) : Prop
  | document : Misshapen document → Refused file document v o
  | before : Useless (inForce file document v {}) → Refused file document v o
  | after : Useless (inForce file document v o) → Refused file document v o

/-- The settings of a project with what is asked for directly. -/
def loaded [Yaml.SetOrder] (d : Disk) (v : ConfigVariables) (o : ConfigOverrides)
    (project : String) : Except Failure Config := do
  (← load d v project).withOverrides o

/-! ## Settling -/

/-- A computation gives a result if a condition holds, and fails with a value that may not be if
it does not. -/
def Settles {α : Type} (x : Except Failure α) (valid : Bool) (a : α) : Prop :=
  (valid = true ∧ x = .ok a) ∨ (valid = false ∧ ∃ message, x = .error (.value message))

section Settles

variable {α β : Type} {a : α}

theorem settles_ok : Settles (.ok a) true a := .inl ⟨rfl, rfl⟩

theorem settles_error {message : String} : Settles (.error (.value message)) false a :=
  .inr ⟨rfl, message, rfl⟩

theorem settles_bind {x : Except Failure α} {f : α → Except Failure β} {valid valid' : Bool}
    {b : β} (hx : Settles x valid a) (hf : Settles (f a) valid' b) :
    Settles (x >>= f) (valid && valid') b := by
  rcases hx with ⟨rfl, rfl⟩ | ⟨rfl, message, rfl⟩
  · exact hf
  · exact settles_error

/-- A last step that cannot fail. -/
theorem settles_map {x : Except Failure α} {g : α → β} {valid : Bool} (hx : Settles x valid a) :
    Settles (x >>= fun a => pure (g a)) valid (g a) :=
  Bool.and_true valid ▸ settles_bind hx settles_ok

/-- What has no result under the condition that it has one. -/
theorem settles_mapError {x : Except String α} :
    Settles (x.mapError .value) x.isOk ((x.mapError Failure.value).toOption.getD a) := by
  cases x with
  | ok a => exact settles_ok
  | error message => exact settles_error

end Settles

/-! ## Lists and texts -/

theorem mapM_isOk {α β : Type} (f : α → Except String β) : ∀ items : List α,
    (items.mapM f).isOk = items.all fun x => (f x).isOk
  | [] => rfl
  | x :: rest => by
      rw [List.mapM_cons, List.all_cons, ← mapM_isOk f rest]
      exact isOk_both

theorem all_toText_isOk (items : List Value) :
    (items.all fun v => v.toText.isOk) = (Value.itemNumbers items).all Value.isShort := by
  induction items with
  | nil => rfl
  | cons v rest ih =>
      rw [List.all_cons, ih, Value.toText_isOk, Value.itemNumbers, List.all_append]
      rfl

/-- Whether a value can be a setting that is a list. -/
def isListed (v : Value) : Bool := isListing v && v.isWritable

theorem listSetting_settles (key : String) (v : Value) (before : List String) :
    Settles (listSetting key v) (isListed v) ((listSetting key v).toOption.getD before) := by
  cases v with
  | text s => exact settles_ok
  | list items =>
      have hvalid : isListed (.list items) = (items.mapM Value.toText).isOk := by
        rw [mapM_isOk, all_toText_isOk]
        rfl
      rw [hvalid]
      exact settles_mapError
  | _ => exact settles_error

theorem textSetting_settles {α : Type} (v : Value) (g : String → α) (before : α) :
    Settles ((v.toText.mapError .value).map g) v.isWritable
      ((v.toText.toOption.map g).getD before) := by
  rw [← Value.toText_isOk]
  cases v.toText with
  | ok text => exact settles_ok
  | error message => exact settles_error

/-! ## A document as a layer -/

variable {document : Value} {directory : FilePath}

/-- What is under a key, or what was set before. -/
theorem field_settles {α : Type} {key : String} {read : Value → Except Failure α} {before : α}
    {valid : Value → Bool} {value? : Value → Option α}
    (h : ∀ v, Settles (read v) (valid v) ((value? v).getD before)) :
    Settles (match document.field? key with
        | some v => read v
        | none => .ok before)
      ((document.field? key).all valid) (((document.field? key).bind value?).getD before) := by
  cases document.field? key with
  | none => exact settles_ok
  | some v => exact h v

theorem rulesFileIn_settles : Settles (rulesFileIn document directory none)
    ((document.field? "rules").all Value.isWritable) (ofDocument directory document).rulesFile := by
  rw [rulesFileIn, ofDocument]
  cases document.field? "rules" with
  | none => exact settles_ok
  | some v =>
      cases htrue : v.isTrue with
      | true =>
          simp only [Option.all_some, Option.filter_some, htrue, if_true, Option.bind_some]
          rw [← Value.toText_isOk]
          cases v.toText with
          | ok text => exact settles_ok
          | error message => exact settles_error
      | false =>
          have hvalid : v.isWritable = true := by
            cases hw : v.isWritable with
            | true => rfl
            | false => rw [Value.isTrue_of_isWritable_eq_false hw] at htrue; cases htrue
          simp only [Option.all_some, Option.filter_some, htrue, hvalid]
          exact settles_ok

/-- Whether nothing is wrong with a document. -/
def isWellShaped : Value → Bool
  | .map fields =>
    let field := fun key => (Value.map fields).field? key
    (field "extensions").all isListed && ((field "exclude").all isListed &&
      ((field "severity").all Value.isWritable && (field "rules").all Value.isWritable))
  | _ => false

theorem withDocument_settles (file : FilePath) (raw : Value) :
    Settles (({} : Config).withDocument file raw)
      (isWellShaped (if raw.isTrue then raw else .map []))
      ((ofDocument file.parent (if raw.isTrue then raw else .map [])).settings (some file)) := by
  rw [withDocument]
  generalize (if raw.isTrue then raw else .map []) = document
  cases document with
  | map fields =>
      refine settles_bind (field_settles (listSetting_settles "extensions" · _)) ?_
      refine settles_bind (field_settles (listSetting_settles "exclude" · _)) ?_
      refine settles_bind (field_settles (textSetting_settles · _ _)) ?_
      exact settles_map rulesFileIn_settles
  | _ => exact settles_error

theorem all_eq_false {field : Option Value} {valid : Value → Bool} :
    field.all valid = false ↔ ∃ v, field = some v ∧ valid v = false := by
  cases field <;> simp

theorem misshapen_iff : Misshapen document ↔ isWellShaped document = false := by
  cases document with
  | map fields =>
      simp only [isWellShaped, isListed, Bool.and_eq_false_iff, all_eq_false]
      constructor
      · rintro (h | ⟨hkey, hv, h⟩ | ⟨hkey, v, hv, h⟩)
        · exact absurd rfl (h fields)
        · simp only [listKeys, List.mem_cons, List.not_mem_nil, or_false] at hkey
          rcases hkey with rfl | rfl
          · exact .inl ⟨_, hv, .inl h⟩
          · exact .inr (.inl ⟨_, hv, .inl h⟩)
        · simp only [settingKeys, listKeys, List.cons_append, List.nil_append, List.mem_cons,
            List.not_mem_nil, or_false] at hkey
          rcases hkey with rfl | rfl | rfl | rfl
          · exact .inl ⟨_, hv, .inr h⟩
          · exact .inr (.inl ⟨_, hv, .inr h⟩)
          · exact .inr (.inr (.inl ⟨_, hv, h⟩))
          · exact .inr (.inr (.inr ⟨_, hv, h⟩))
      · rintro (⟨v, hv, h | h⟩ | ⟨v, hv, h | h⟩ | ⟨v, hv, h⟩ | ⟨v, hv, h⟩)
        · exact .notAList (.head _) hv h
        · exact .overlong (.head _) ⟨v, hv, h⟩
        · exact .notAList (.tail _ (.head _)) hv h
        · exact .overlong (.tail _ (.head _)) ⟨v, hv, h⟩
        · exact .overlong (.tail _ (.tail _ (.head _))) ⟨v, hv, h⟩
        · exact .overlong (.tail _ (.tail _ (.tail _ (.head _)))) ⟨v, hv, h⟩
  | _ => exact ⟨fun _ => rfl, fun _ => .notAMapping nofun⟩

/-! ## The layers above -/

theorem withVariables_settings (layer : Layer) (source : Option FilePath) (v : ConfigVariables) :
    (layer.settings source).withVariables v = ((ofVariables v).over layer).settings source := by
  rw [withVariables, Layer.settings, Layer.settings, Layer.over, ofVariables]
  congr 1
  · cases given v.extensions <;> rfl
  · cases given v.exclude <;> rfl
  · cases given v.severity <;> rfl

/-- Whether something can be scanned. -/
def isUseful (c : Config) : Bool :=
  SeverityFilter.names.contains c.severity && !c.extensions.isEmpty

theorem useless_iff {c : Config} : Useless c ↔ isUseful c = false := by
  rw [Useless, isUseful, Bool.and_eq_false_iff, Bool.not_eq_false', List.isEmpty_iff,
    ← Bool.not_eq_true, List.contains_iff_mem]

theorem checked_settles (c : Config) : Settles c.checked (isUseful c) c := by
  rw [checked, isUseful]
  cases SeverityFilter.names.contains c.severity with
  | false => exact settles_error
  | true =>
      cases c.extensions.isEmpty with
      | true => exact settles_error
      | false => exact settles_ok

theorem withOverrides_settings (layer : Layer) (source : Option FilePath) (o : ConfigOverrides) :
    (layer.settings source).withOverrides o =
      (((ofOverrides o).over layer).settings source).checked := by
  rw [withOverrides, Layer.settings, Layer.settings, Layer.over, ofOverrides]
  congr 2
  · cases o.extensions <;> rfl
  · cases o.exclude <;> rfl
  · by_cases h : o.severity = "" <;> simp [h]
  · by_cases h : o.rulesFile = "" <;> simp [h]

/-! ## Loading -/

variable {d : Disk} {v : ConfigVariables} {o : ConfigOverrides} {project : String}
  {file : Option FilePath}

theorem firstFile_eq_ok :
    firstFile d (fileNames.map fun n => directory.join (FilePath.ofString n)) = .ok file ↔
      Located d directory file := by
  change (do
    if ← (d.isFile (candidate directory ".vibecurb.yml").toString).mapError Failure.system then
      return some (candidate directory ".vibecurb.yml")
    else if ← (d.isFile (candidate directory ".vibecurb.yaml").toString).mapError Failure.system then
      return some (candidate directory ".vibecurb.yaml")
    else return none) = Except.ok file ↔ _
  constructor
  · intro h
    obtain ⟨b, hb, h⟩ := bind_eq_ok.1 h
    rw [mapError_eq_ok] at hb
    cases b with
    | true =>
        cases h
        exact .first hb
    | false =>
        obtain ⟨b', hb', h⟩ := bind_eq_ok.1 h
        rw [mapError_eq_ok] at hb'
        cases b' <;> cases h
        · exact .none hb hb'
        · exact .second hb hb'
  · rintro (h | ⟨h, h'⟩ | ⟨h, h'⟩)
    · rw [h]
      rfl
    · rw [h, h']
      rfl
    · rw [h, h']
      rfl

/-- Whether nothing is refused. -/
def isAccepted (file : Option FilePath) (document : Value) (v : ConfigVariables)
    (o : ConfigOverrides) : Bool :=
  isWellShaped document && (isUseful (inForce file document v {}) &&
    isUseful (inForce file document v o))

theorem refused_iff : Refused file document v o ↔ isAccepted file document v o = false := by
  rw [isAccepted, Bool.and_eq_false_iff, Bool.and_eq_false_iff, ← misshapen_iff, ← useless_iff,
    ← useless_iff]
  constructor
  · rintro (h | h | h)
    · exact .inl h
    · exact .inr (.inl h)
    · exact .inr (.inr h)
  · rintro (h | h | h)
    · exact .document h
    · exact .before h
    · exact .after h

section Loaded

variable [Yaml.SetOrder]

/-- The settings of the file, if there is one, on top of the defaults. -/
def based (d : Disk) : Option FilePath → Except Failure Config
  | some file => ({} : Config).withFile d file
  | none => pure {}

theorem based_settles (h : Holds d file document) : Settles (based d file) (isWellShaped document)
    ((ofDocument (directoryOf file) document).settings file) := by
  cases h with
  | none => exact settles_ok
  | file hs hdocument =>
      rw [based, withFile, hs]
      change Settles (read _ >>= fun document => ({} : Config).withDocument _ document) _ _
      rw [hdocument]
      exact withDocument_settles _ _

theorem load_eq_bind (d : Disk) (v : ConfigVariables) (project : String) :
    load d v project = ((d.isFile (FilePath.ofString project).toString).mapError .system >>=
      fun isFile => firstFile d (fileNames.map fun n => (if isFile then
        (FilePath.ofString project).parent else FilePath.ofString project).join
          (FilePath.ofString n)) >>= fun file => based d file >>= fun c =>
            (c.withVariables v).checked) := by
  rw [load]
  refine congrArg _ (funext fun isFile => congrArg _ (funext fun file => ?_))
  cases file <;> rfl

theorem load_eq (h : InDirectory d project directory) (hfile : Located d directory file)
    (v : ConfigVariables) :
    load d v project = based d file >>= fun c => (c.withVariables v).checked := by
  have hfile' := firstFile_eq_ok.2 hfile
  rw [load_eq_bind]
  cases h with
  | file h | directory h =>
      rw [h, mapError_eq_ok.2 rfl]
      exact congrArg (· >>= fun file => based d file >>= fun c => (c.withVariables v).checked) hfile'

theorem exists_of_load {c : Config} (h : load d v project = .ok c) :
    ∃ directory file document, InDirectory d project directory ∧ Located d directory file ∧
      Holds d file document := by
  rw [load_eq_bind] at h
  obtain ⟨isFile, hisFile, h⟩ := bind_eq_ok.1 h
  obtain ⟨file, hfile, h⟩ := bind_eq_ok.1 h
  obtain ⟨c', hbased, -⟩ := bind_eq_ok.1 h
  have hholds : ∃ document, Holds d file document := by
    cases file with
    | none => exact ⟨_, .none⟩
    | some file =>
        obtain ⟨s, hs, h⟩ := bind_eq_ok.1 hbased
        obtain ⟨document, hdocument, -⟩ := bind_eq_ok.1 h
        exact ⟨_, .file hs hdocument⟩
  obtain ⟨document, hholds⟩ := hholds
  rw [mapError_eq_ok] at hisFile
  cases isFile with
  | true => exact ⟨_, file, document, .file hisFile, firstFile_eq_ok.1 hfile, hholds⟩
  | false => exact ⟨_, file, document, .directory hisFile, firstFile_eq_ok.1 hfile, hholds⟩

/-- What is loaded once it is settled where from. -/
theorem loaded_settles (hdirectory : InDirectory d project directory)
    (hfile : Located d directory file) (h : Holds d file document) :
    Settles (loaded d v o project) (isAccepted file document v o) (inForce file document v o) := by
  rw [loaded, load_eq hdirectory hfile, bind_assoc]
  refine settles_bind (based_settles h) (settles_bind (a := inForce file document v {}) ?_ ?_)
  · rw [withVariables_settings]
    exact checked_settles _
  · have hbefore : inForce file document v {} =
        ((ofVariables v).over (ofDocument (directoryOf file) document)).settings file := rfl
    rw [hbefore, withOverrides_settings]
    exact checked_settles _

end Loaded

/-! ## A project with one file -/

/-- A project with nothing but a file with settings. -/
def projectOf (s : List Char) : Disk :=
  { tree := .directory [(".vibecurb.yml", .file (Text.encodeUtf8 s))] }

theorem candidate_here : (candidate (FilePath.ofString ".") ".vibecurb.yml").toString =
    ".vibecurb.yml" := by
  decide +kernel

theorem node_projectOf (s : List Char) :
    (projectOf s).node ".vibecurb.yml" = .ok (.file (Text.encodeUtf8 s)) := by
  have hnames : (Text.splitAt '/' ".vibecurb.yml".toList).map String.ofList =
      [".vibecurb.yml"] := by
    decide +kernel
  have hshort : (Text.encodeUtf8 ".vibecurb.yml".toList).length ≤ Disk.nameLimit := by
    decide +kernel
  have hstart : (if ".vibecurb.yml".toList.head? = some '/' then [] else (projectOf s).here) =
      [] := ite_self []
  have hstep : Disk.step [] ".vibecurb.yml" = [".vibecurb.yml"] := by decide
  have hlocate : (projectOf s).locate ".vibecurb.yml" = .ok [".vibecurb.yml"] := by
    rw [Disk.locate, hnames, if_neg (by decide), hstart]
    exact Disk.follow_cons.2 ⟨⟨_, rfl⟩, hshort, congrArg Except.ok hstep⟩
  exact Disk.node_eq_ok.2 ⟨_, hlocate, rfl⟩

theorem inDirectory_projectOf (s : List Char) :
    InDirectory (projectOf s) "." (FilePath.ofString ".") := by
  have hhere : (FilePath.ofString ".").toString = "." := by decide +kernel
  have hnames : (Text.splitAt '/' ".".toList).map String.ofList = ["."] := by decide +kernel
  have hstart : (if ".".toList.head? = some '/' then [] else (projectOf s).here) = [] := ite_self []
  have hstep : Disk.step [] "." = [] := by decide
  have hlocate : (projectOf s).locate "." = .ok [] := by
    rw [Disk.locate, hnames, if_neg (by decide), hstart]
    exact Disk.follow_cons.2 ⟨⟨_, rfl⟩, by decide +kernel, congrArg Except.ok hstep⟩
  refine .directory ?_
  rw [hhere, Disk.isFile, Disk.node_eq_ok.2 ⟨_, hlocate, rfl⟩]
  rfl

theorem located_projectOf (s : List Char) : Located (projectOf s) (FilePath.ofString ".")
    (some (candidate (FilePath.ofString ".") ".vibecurb.yml")) := by
  refine .first ?_
  rw [candidate_here, Disk.isFile, node_projectOf]
  rfl

theorem readLines_projectOf {s : List Char} (h : '\r' ∉ s) :
    (projectOf s).readLines (candidate (FilePath.ofString ".") ".vibecurb.yml").toString =
      .ok s := by
  have htext : (projectOf s).readText ".vibecurb.yml" = .ok s := Disk.readText_eq_ok.2
    ⟨_, Disk.read_eq_ok.2 (node_projectOf s), Text.decodeUtf8_encodeUtf8 s⟩
  rw [candidate_here, Disk.readLines, htext]
  exact congrArg Except.ok (Text.unifyLineEnds_eq_self h)

theorem read_longText [Yaml.SetOrder] (n : Nat) :
    read (Yaml.longText (n + 1)) = .ok (Yaml.longField (n + 1)) := by
  rw [read, Yaml.document_longText]
  rfl

theorem holds_longText [Yaml.SetOrder] (n : Nat) : Holds (projectOf (Yaml.longText (n + 1)))
    (some (candidate (FilePath.ofString ".") ".vibecurb.yml")) (Yaml.longField (n + 1)) :=
  .file (readLines_projectOf (Yaml.return_not_mem_longText (n + 1))) (read_longText n)

/-- **Where settings come from.** Settings that are loaded are those in force: each one comes from
the highest source that says something about it, be it what is asked for, a variable, the
document of the project, or the default. And once there is a document, settings are loaded unless
they are refused, which happens with a value that may not be and in no other way. -/
theorem load_layered [Yaml.SetOrder] (d : Disk) (v : ConfigVariables) (o : ConfigOverrides)
    (project : String) :
    (∀ c, loaded d v o project = .ok c → ∃ directory file document,
      InDirectory d project directory ∧ Located d directory file ∧ Holds d file document ∧
        c = inForce file document v o) ∧
    ∀ directory file document, InDirectory d project directory → Located d directory file →
      Holds d file document →
        ((∃ message, loaded d v o project = .error (.value message)) ↔
          Refused file document v o) ∧
        (¬Refused file document v o → loaded d v o project = .ok (inForce file document v o)) := by
  refine ⟨fun c h => ?_, fun directory file document hdirectory hfile hholds => ?_⟩
  · obtain ⟨c', hload, -⟩ := bind_eq_ok.1 h
    obtain ⟨directory, file, document, hdirectory, hfile, hholds⟩ := exists_of_load hload
    refine ⟨directory, file, document, hdirectory, hfile, hholds, ?_⟩
    rcases loaded_settles hdirectory hfile hholds with ⟨-, hok⟩ | ⟨-, message, herror⟩
    · exact Except.ok.inj (h.symm.trans hok)
    · cases h.symm.trans herror
  · rw [refused_iff]
    rcases loaded_settles hdirectory hfile hholds with ⟨hvalid, hok⟩ | ⟨hvalid, message, herror⟩
    · rw [hok, hvalid]
      exact ⟨⟨nofun, nofun⟩, fun _ => rfl⟩
    · rw [herror, hvalid]
      exact ⟨⟨fun _ => rfl, fun _ => ⟨message, rfl⟩⟩, fun h => absurd rfl h⟩

/-- A severity that is none, in a document that a variable is above. -/
theorem load_layered_masked :
    let d := projectOf (Yaml.longText 1)
    let file := some (candidate (FilePath.ofString ".") ".vibecurb.yml")
    let v : ConfigVariables := { severity := some " All" }
    let o : ConfigOverrides := { exclude := ["out"] }
    InDirectory d "." (FilePath.ofString ".") ∧ Located d (FilePath.ofString ".") file ∧
      Holds d file (Yaml.longField 1) ∧ ¬Refused file (Yaml.longField 1) v o ∧
      loaded d v o "." = .ok { exclude := ["out"], source := file } := by
  intro d file v o
  have hdirectory := inDirectory_projectOf (Yaml.longText 1)
  have hfile := located_projectOf (Yaml.longText 1)
  have hholds := holds_longText 0
  have haccepted : ¬Refused file (Yaml.longField 1) v o := by
    rw [refused_iff]
    decide +kernel
  have hinForce : inForce file (Yaml.longField 1) v o = { exclude := ["out"], source := file } := by
    decide +kernel
  refine ⟨hdirectory, hfile, hholds, haccepted, ?_⟩
  rw [← hinForce]
  exact ((load_layered d v o ".").2 _ _ _ hdirectory hfile hholds).2 haccepted

/-! ## A number that is too long -/

/-- A number that is too long to be written stops a load, whatever is said above it. -/
theorem loaded_longText {n : Nat} (h : Nat.pow 10 Text.decimalLimit ≤ Nat.pow 16 (n + 1) - 1)
    (v : ConfigVariables) (o : ConfigOverrides) :
    Holds (projectOf (Yaml.longText (n + 1)))
        (some (candidate (FilePath.ofString ".") ".vibecurb.yml")) (Yaml.longField (n + 1)) ∧
      ∃ message, loaded (projectOf (Yaml.longText (n + 1))) v o "." = .error (.value message) := by
  have hholds := holds_longText n
  refine ⟨hholds, ?_⟩
  rcases loaded_settles (v := v) (o := o) (inDirectory_projectOf _) (located_projectOf _) hholds
    with ⟨hvalid, -⟩ | ⟨-, message, herror⟩
  · have hmisshapen : Misshapen (Yaml.longField (n + 1)) :=
      .overlong (by decide) (Yaml.isOverlong_longField h)
    change (isWellShaped (Yaml.longField (n + 1)) && _) = true at hvalid
    rw [misshapen_iff.1 hmisshapen] at hvalid
    cases hvalid
  · exact ⟨message, herror⟩

/-- What is in force if a variable asks for everything. -/
theorem useful_longText (file : Option FilePath) (n : Nat) :
    ¬Useless (inForce file (Yaml.longField n) { severity := some "all" } {}) := by
  have hvariable : (ofVariables { severity := some "all" }).severity = some "all" := by
    decide +kernel
  have hseverity : (inForce file (Yaml.longField n) { severity := some "all" } {}).severity =
      "all" := by
    change ((ofOverrides {}).severity.or
      ((ofVariables { severity := some "all" }).severity.or
        (ofDocument (directoryOf file) (Yaml.longField n)).severity)).getD "all" = "all"
    rw [hvariable]
    rfl
  rintro (h | h)
  · rw [hseverity] at h
    exact h (by decide)
  · cases h

/-- A number that is too long stops a load even if settings are refused for nothing else. -/
theorem load_refuses_longText :
    ¬∀ (d : Disk) (v : ConfigVariables) (o : ConfigOverrides) (project : String) directory file
      document, InDirectory d project directory → Located d directory file →
        Holds d file document → (∃ message, loaded d v o project = .error (.value message)) →
          (∀ fields, document ≠ .map fields) ∨
            (∃ key ∈ listKeys, ∃ v, document.field? key = some v ∧ isListing v = false) ∨
            Useless (inForce file document v {}) ∨ Useless (inForce file document v o) := by
  intro h
  obtain ⟨hholds, hrefused⟩ :=
    loaded_longText Yaml.decimalLimit_le { severity := some "all" } {}
  rcases h _ _ _ "." _ _ _ (inDirectory_projectOf _) (located_projectOf _) hholds hrefused with
    h | ⟨key, hkey, value, hvalue, -⟩ | h | h
  · exact h _ rfl
  · simp only [listKeys, List.mem_cons, List.not_mem_nil, or_false] at hkey
    rcases hkey with rfl | rfl <;> cases hvalue
  · exact useful_longText _ _ h
  · exact useful_longText _ _ h

end Config

end SecretScan
