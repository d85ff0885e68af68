import Ledger.Text.Unicode
import Ledger.Text.Numeral

/-!
Service settings read from environment variables.

Each setting has a variable and a default; a variable that is unset or empty takes the
default. A value holding a NUL character cannot be set, so its variable stays unset. Truth values that do not read take false, integers that do not read take zero, and
a page size of zero or less takes 20. Lists are split at commas, each part trimmed, blank
parts dropped. The storage backend is trimmed and lower-cased and must be `memory` or
`postgres`; `postgres` needs a database address.
-/

namespace Ledger

/-- The service settings. -/
structure Config where
  listenOn : String
  isProduction : Bool
  storageBackend : String
  databaseUrl : String
  enableDbCheck : Bool
  runMigrations : Bool
  migrationsPath : String
  kafkaBrokers : List String
  kafkaTopic : String
  rateLimit : String
  corsOrigins : List String
  defaultPageSize : Int
  deriving Repr

namespace Config

/-- Environment variables, by name. -/
abbrev Env := List (String × String)

/-- The value a variable is set to, if it can be set. -/
def value? (env : Env) (name : String) : Option String :=
  (env.lookup name).filter fun v => !v.any (· == Char.ofNat 0)

/-- The value of a variable, or the default when unset or empty. -/
def setting (env : Env) (name default : String) : String :=
  match value? env name with
  | some v => if v.isEmpty then default else v
  | none => default

/-- A truth-valued variable: the default when unset or empty, false when it does not read. -/
def flag (env : Env) (name : String) (default : Bool) : Bool :=
  match value? env name with
  | some v => if v.isEmpty then default else (Numeral.readBool v).getD false
  | none => default

/-- The non-blank trimmed parts of a comma-separated list. -/
def splitList (raw : String) : List String :=
  ((raw.splitOn ",").map Unicode.trimSpace).filter (!·.isEmpty)

/-- Reads the settings, or says why they are refused. -/
def load (env : Env) : Except String Config :=
  let backend := Unicode.toLower (Unicode.trimSpace (setting env "STORAGE_BACKEND" "memory"))
  let pageSize := match value? env "DEFAULT_PAGE_SIZE" with
    | some v => if v.isEmpty then 20 else Numeral.readInt v
    | none => 20
  let cfg : Config :=
    { listenOn := setting env "PORT" "8080",
      isProduction := flag env "IS_PRODUCTION" false,
      storageBackend := backend,
      databaseUrl := setting env "PGSQL_URL" "",
      enableDbCheck := flag env "ENABLE_DB_CHECK" false,
      runMigrations := flag env "RUN_MIGRATIONS" true,
      migrationsPath := setting env "MIGRATIONS_PATH" "file://migrations",
      kafkaBrokers := splitList (setting env "KAFKA_BROKERS" ""),
      kafkaTopic := setting env "KAFKA_TOPIC" "ledger_events",
      rateLimit := Unicode.trimSpace (setting env "RATE_LIMIT" ""),
      corsOrigins := splitList (setting env "CORS_ALLOWED_ORIGINS" "*"),
      defaultPageSize := if pageSize ≤ 0 then 20 else pageSize }
  if backend == "memory" then .ok cfg
  else if backend == "postgres" then
    if cfg.databaseUrl.isEmpty then
      .error "PGSQL_URL is required when STORAGE_BACKEND is \"postgres\""
    else .ok cfg
  else .error ("unsupported STORAGE_BACKEND " ++ Unicode.quote backend)

end Config

end Ledger
