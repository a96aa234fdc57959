import Conveyance.Format
import Conveyance.Storage.Place
import Conveyance.Text.Quoted
import Conveyance.Typst.Document

/-!
# Startup/Settings — settings read from environment variables

An `Environment` says which text each `Variable` holds, if any.  `Settings.read` takes the variables
one after another, so the first that is missing or unreadable decides the error.  **A blank value
counts as unset**, with one exception: the currency symbol is taken as it stands, and may be blank.
-/

namespace Conveyance

/-! ## Variables -/

/-- The variables that are read. -/
inductive Variable where
  | databaseUrl
  | bindAddress
  | storageBackend
  | localStorageDir
  | publicBaseUrl
  | supabaseUrl
  | supabaseServiceKey
  | bucketName
  | currencySymbol
  | digitGrouping
  | dateFormat
  | blankTopMargin
  | documentsFolder
  | typstProgram
  deriving DecidableEq, Repr

namespace Variable

/-- Every variable that is read. -/
def all : List Variable :=
  [databaseUrl, bindAddress, storageBackend, localStorageDir, publicBaseUrl, supabaseUrl,
    supabaseServiceKey, bucketName, currencySymbol, digitGrouping, dateFormat, blankTopMargin,
    documentsFolder, typstProgram]

/-- The name of a variable. -/
def name : Variable → String
  | databaseUrl => "DATABASE_URL"
  | bindAddress => "BIND_ADDR"
  | storageBackend => "STORAGE_BACKEND"
  | localStorageDir => "LOCAL_STORAGE_DIR"
  | publicBaseUrl => "PUBLIC_BASE_URL"
  | supabaseUrl => "SUPABASE_URL"
  | supabaseServiceKey => "SUPABASE_SERVICE_KEY"
  | bucketName => "BUCKET_NAME"
  | currencySymbol => "CURRENCY_SYMBOL"
  | digitGrouping => "DIGIT_GROUPING"
  | dateFormat => "DATE_FORMAT"
  | blankTopMargin => "BLANK_TOP_MARGIN_CM"
  | documentsFolder => "DOCUMENTS_FOLDER"
  | typstProgram => "TYPST_BIN"

end Variable

/-- The text that each variable holds. -/
abbrev Environment := Variable → Option Text

/-- The text of a variable, unless it is blank. -/
def Environment.get? (env : Environment) (v : Variable) : Option Text :=
  (env v).filter (!Text.allBlank ·)

/-- The text of a variable, or a fixed one in its place. -/
def Environment.getD (env : Environment) (v : Variable) (default : String) : Text :=
  (env.get? v).getD default.toList

/-! ## Errors -/

/-- Why settings cannot be read. -/
inductive SettingsError where
  | missing (key : Variable)
  | invalid (key : Variable) (value : Text)
  deriving DecidableEq, Repr

namespace SettingsError

/-- The error in words. -/
def message : SettingsError → Text
  | missing v => v.name.toList ++ " must be set".toList
  | invalid v value => "invalid value for ".toList ++ v.name.toList ++ ": ".toList ++ Text.shown value

end SettingsError

/-! ## Settings -/

/-- Everything that is set once, at the start. -/
structure Settings where
  databaseUrl : Text
  bindAddress : Text
  storage : Place
  /-- The folder, within the place where documents are kept, that receives them. -/
  documentsFolder : Text
  typstProgram : Text
  format : Format
  layout : Layout
  deriving DecidableEq

namespace Settings

/-- A variable that has to be set. -/
def require (env : Environment) (v : Variable) : Except SettingsError Text :=
  match env.get? v with
  | some t => .ok t
  | none => .error (.missing v)

/-- A variable that is read by `f` if it is set. -/
def readD {α : Type} (env : Environment) (v : Variable) (default : α) (f : Text → Option α) :
    Except SettingsError α :=
  match env.get? v with
  | none => .ok default
  | some t =>
    match f t with
    | some a => .ok a
    | none => .error (.invalid v t)

/-- The folder of this machine where documents are kept. -/
def readFolder (env : Environment) (bindAddress : Text) : FolderPlace where
  directory := env.getD .localStorageDir "./generated"
  publicUrl := withoutSlashesAfter <|
    (env.get? .publicBaseUrl).getD ("http://".toList ++ bindAddress ++ "/files".toList)

/-- The bucket where documents are kept. -/
def readBucket (env : Environment) : Except SettingsError BucketPlace := do
  let url ← require env .supabaseUrl
  let serviceKey ← require env .supabaseServiceKey
  let bucket ← require env .bucketName
  return { url := withoutSlashesAfter url, serviceKey, bucket }

/-- Where documents are kept: a word tells which kind of place it is. -/
def readPlace (env : Environment) (bindAddress : Text) : Except SettingsError Place :=
  let word := env.getD .storageBackend "local"
  let plain := Text.asciiLower (Text.trim word)
  if plain = "local".toList then .ok (.folder (readFolder env bindAddress))
  else if plain = "supabase".toList then (readBucket env).map .bucket
  else .error (.invalid .storageBackend word)

/-- A date pattern of which every part is known. -/
def readPattern? (t : Text) : Option Text := if Pattern.isWellFormed t then some t else none

/-- A margin: a number that is finite and not below zero. -/
def readMargin? (t : Text) : Option Single := (Single.read? (Text.trim t)).filter (·.isNonnegative)

/-- **The settings of an environment.** -/
def read (env : Environment) : Except SettingsError Settings := do
  let databaseUrl ← require env .databaseUrl
  let bindAddress := env.getD .bindAddress "0.0.0.0:8080"
  let storage ← readPlace env bindAddress
  let format : Format := {}
  let grouping ← readD env .digitGrouping format.grouping Grouping.ofWord?
  let datePattern ← readD env .dateFormat format.datePattern readPattern?
  let layout : Layout := {}
  let blankTop ← readD env .blankTopMargin layout.blankTop readMargin?
  return {
    databaseUrl, bindAddress, storage
    documentsFolder := Text.trimBy (· == '/') (env.getD .documentsFolder "documents")
    typstProgram := env.getD .typstProgram "typst"
    format := { symbol := (env .currencySymbol).getD format.symbol, grouping, datePattern }
    layout := { layout with blankTop } }

end Settings

end Conveyance
