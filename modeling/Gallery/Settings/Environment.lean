import Gallery.Text.LetterCase
import Gallery.Text.Utf8

-- The environment of the process: variables with their values. A variable whose value is no text
-- counts as one that is not set.

namespace Gallery

structure Environment where
  assigned : List (String × String)

namespace Environment

def get? (env : Environment) (name : String) : Option String := env.assigned.lookup name

-- The environment of a process whose variables have these values. The first value of a name counts.
def ofValues (values : List (String × List UInt8)) : Environment :=
  ⟨values.filterMap fun (name, _) =>
    ((values.lookup name).bind fun bytes => Text.ofUtf8? ⟨bytes.toArray⟩).map (name, ·)⟩

-- The environment with a variable that is set unless it is already.
def setDefault (env : Environment) (name value : String) : Environment :=
  match env.get? name with
  | some _ => env
  | none => ⟨env.assigned ++ [(name, value)]⟩

-- The value of the first of two variables that is set.
def either? (env : Environment) (first second : String) : Option String :=
  (env.get? first).or (env.get? second)

-- What the place where the service runs is called, if it is called anything.
def placeName? (env : Environment) : Option String := env.either? "ENVIRONMENT" "APP_ENV"

end Environment

-- A name of the place where the service is in use by its clients.
def isProductionName (name : String) : Bool :=
  let name := Text.lower name
  name == "production" || name == "prod"

-- The service runs where it is in use by its clients.
def Environment.isProduction (env : Environment) : Bool := env.placeName?.any isProductionName

end Gallery
