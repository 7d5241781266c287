import JobMatrix.Schema

/-! The shape of a pipeline declaration. -/

namespace JobMatrix.Declaration

def scalarShape : Schema := [.kinds [.string, .number, .boolean]]

def envShape : Schema := [.kinds [.object], .others [] scalarShape]

/-- Lists of bindings, as for the additions and exclusions of a matrix. -/
def bindingsShape : Schema :=
  [.kinds [.array], .items [.kinds [.object], .others [] scalarShape]]

def filterShape : Schema :=
  [.kinds [.object, .null],
   .fields [("branches", [.kinds [.array], .items [.kinds [.string]]])]]

def axisShape : Schema :=
  [.oneOf [
    [.kinds [.array], .items scalarShape],
    [.kinds [.object], .required ["values"], .closed ["values", "env"],
     .fields [
       ("values", [.kinds [.array], .items scalarShape]),
       ("env", [.kinds [.object], .others [] envShape])]]]]

def commandShape : Schema :=
  [.oneOf [
    [.kinds [.string], .nonEmpty .string],
    [.kinds [.array], .items [.kinds [.string]], .nonEmpty .array]]]

def stepShape : Schema :=
  [.kinds [.object], .required ["run"],
   .closed ["name", "run", "working-directory", "env", "timeout-minutes"],
   .fields [
     ("name", [.kinds [.string]]),
     ("run", commandShape),
     ("working-directory", [.kinds [.string]]),
     ("env", envShape),
     ("timeout-minutes", [.kinds [.number], .positive])]]

def matrixShape : Schema :=
  [.kinds [.object],
   .fields [("include", bindingsShape), ("exclude", bindingsShape)],
   .others ["include", "exclude"] axisShape]

def jobShape : Schema :=
  [.kinds [.object], .required ["steps"], .closed ["name", "env", "matrix", "steps"],
   .fields [
     ("name", [.kinds [.string]]),
     ("env", envShape),
     ("matrix", matrixShape),
     ("steps", [.kinds [.array], .items stepShape])]]

def triggerShape : Schema :=
  [.oneOf [
    [.kinds [.string]],
    [.kinds [.array], .items [.kinds [.string]]],
    [.kinds [.object], .others [] filterShape]]]

def shape : Schema :=
  [.kinds [.object], .required ["jobs"], .closed ["name", "on", "env", "jobs"],
   .fields [
     ("name", [.kinds [.string]]),
     ("on", triggerShape),
     ("env", envShape),
     ("jobs", [.kinds [.object], .nonEmpty .object, .others [] jobShape])]]

end JobMatrix.Declaration
