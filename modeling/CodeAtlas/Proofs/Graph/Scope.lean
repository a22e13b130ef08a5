import CodeAtlas.Graph.Query

/-! How statements are confined to a project. Of the statements about methods, those that look
for methods name the project, and those about a method that was found name its class and the
method only. -/

namespace CodeAtlas.Graph.Query

/-- The statement looks for methods in a project. -/
inductive Scoped (project : Json) : Query → Prop
  | methods (cls : Json) : Scoped project (.methods cls project)
  | classOfMethod (method : Json) : Scoped project (.classOfMethod method project)
  | methodNode (method : Json) : Scoped project (.methodNode method project)

/-- The statement is about a method of a class, or one outside classes, in any project. -/
inductive Unscoped (cls method : Json) : Query → Prop
  | calledFromOutside : Unscoped cls method (.calledFromOutside cls method)
  | collaborators (hcls : cls.truthy = true) : Unscoped cls method (.collaborators cls)
  | dependenciesOf : Unscoped cls method (.dependenciesOf cls method)

variable {project cls method : Json} {q : Query}

theorem Scoped.get?_params (h : Scoped project q) : q.params.get? "project" = some project := by
  cases h <;> rfl

theorem Unscoped.get?_params (h : Unscoped cls method q) : q.params.get? "project" = none := by
  have hmember : (memberParams cls method).get? "project" = none := by
    unfold memberParams
    split <;> rfl
  cases h with
  | calledFromOutside => exact hmember
  | collaborators => rfl
  | dependenciesOf => exact hmember

/-- The record that a statement gives stands for a method. A class without methods is listed with
an empty one. -/
def TellsMethod : Query → Fields → Prop
  | .methods _ _, r => (r.getOrNull "method_name").truthy = true
  | .methodNode _ _, _ => True
  | _, _ => False

end CodeAtlas.Graph.Query
