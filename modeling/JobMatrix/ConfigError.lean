import JobMatrix.Value.Literal

/-! What can be wrong with a declaration, and how it is said: a message, and details in brackets
after it. -/

namespace JobMatrix

/-- A message with named details. -/
structure Complaint where
  message : String
  details : Dict String Value := []
deriving Inhabited

def Complaint.text (c : Complaint) : String :=
  if c.details.isEmpty then c.message
  else
    let parts := c.details.map fun d => d.1 ++ "=" ++ d.2.display
    c.message ++ " (" ++ ", ".intercalate parts ++ ")"

/-- The ways in which a declaration is malformed or inconsistent. -/
inductive ConfigError where
  | noSteps (job : Scalar)
  | duplicateAxes (job : Scalar) (axes : List Scalar)
  | axisWithoutValues (axis job : Scalar)
  | exclusionOfUndeclared (job : Scalar) (axes : List Scalar)
  /-- Undeclared axes of an exclusion that cannot be put in order. -/
  | exclusionOfUnordered (job : Scalar)
  | undeclaredReference (job : Scalar) (axis : String) (declared : List Scalar)
  | unboundReference (axis text : String)
  | noCombinations (job : Scalar)
  | notMapping
  | invalid (path : List Scalar) (message : String)
  | emptyMatrix (job : Scalar)
  | overlayOfUndeclared (axis job : Scalar) (values : List String)
  | fileNotFound (path : String)
  | unreadable (path detail : String)
  | malformedVariable (option : String)
deriving Inhabited

namespace ConfigError

def location (path : List Scalar) : String :=
  let s := "/".intercalate (path.map Scalar.display)
  if s.isEmpty then "<root>" else s

private def scalars (xs : List Scalar) : Value := .list (xs.map Value.scalar)

def complaint : ConfigError → Complaint
  | noSteps job => ⟨"Job '" ++ job.display ++ "' declares no steps", []⟩
  | duplicateAxes job axes =>
    ⟨"Job '" ++ job.display ++ "' declares duplicate matrix axes", [("axes", scalars axes)]⟩
  | axisWithoutValues axis job =>
    ⟨"Matrix axis '" ++ axis.display ++ "' of job '" ++ job.display ++ "' has no values", []⟩
  | exclusionOfUndeclared job axes =>
    ⟨"Job '" ++ job.display ++ "' excludes on undeclared matrix axes", [("axes", scalars axes)]⟩
  | exclusionOfUnordered job =>
    ⟨"Job '" ++ job.display ++ "' excludes on undeclared matrix axes", []⟩
  | undeclaredReference job axis declared =>
    ⟨"Job '" ++ job.display ++ "' references undeclared matrix axis '" ++ axis ++ "'",
      [("declared", scalars declared)]⟩
  | unboundReference axis text =>
    ⟨"Reference to undeclared matrix axis '" ++ axis ++ "'", [("text", .text text)]⟩
  | noCombinations job =>
    ⟨"Job '" ++ job.display ++ "' matrix expands to no combinations", []⟩
  | notMapping => ⟨"Declaration must be a mapping", []⟩
  | invalid path message => ⟨"Invalid declaration at " ++ location path ++ ": " ++ message, []⟩
  | emptyMatrix job => ⟨"Job '" ++ job.display ++ "' declares an empty matrix", []⟩
  | overlayOfUndeclared axis job values =>
    ⟨"Matrix axis '" ++ axis.display ++ "' of job '" ++ job.display ++
      "' has env for undeclared values", [("values", .list (values.map Value.text))]⟩
  | fileNotFound path => ⟨"Declaration file not found: " ++ path, []⟩
  | unreadable path detail => ⟨"Failed to parse " ++ path ++ ": " ++ detail, []⟩
  | malformedVariable option =>
    ⟨"Invalid --env value '" ++ option ++ "', expected KEY=VALUE", []⟩

def text (e : ConfigError) : String := e.complaint.text

end ConfigError

end JobMatrix
