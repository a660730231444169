import PanelProbe.Json.Number
import PanelProbe.Percent
import PanelProbe.Text.Replace

/-!
What a run knows at a moment: the tokens it holds and the identifiers of the resources it created,
and the templates that mention them.
-/

set_option autoImplicit false

namespace PanelProbe

inductive ResourceKind
  | user | node | plan
  deriving DecidableEq, Repr

namespace ResourceKind

/-- Every kind, in the order of cleaning up. -/
def all : List ResourceKind := [.user, .node, .plan]

def name : ResourceKind → String
  | .user => "user"
  | .node => "node"
  | .plan => "plan"

def title : ResourceKind → String
  | .user => "User"
  | .node => "Node"
  | .plan => "Plan"

def collection : ResourceKind → String
  | .user => "/admin/users"
  | .node => "/admin/nodes"
  | .plan => "/admin/plans"

def placeholder : ResourceKind → String
  | .user => "\x7buser_id\x7d"
  | .node => "\x7bnode_id\x7d"
  | .plan => "\x7bplan_id\x7d"

end ResourceKind

structure ResourceId where
  text : String
  deriving DecidableEq, Repr

namespace ResourceId

/-- A number gives its JSON text, a nonempty string itself; nothing else is an identifier. -/
def ofJson? : Json → Option ResourceId
  | .number n => some ⟨String.ofList n.chars⟩
  | .string s => if s.isEmpty then none else some ⟨s⟩
  | _ => none

def segment (id : ResourceId) : String :=
  String.ofList (Percent.encode Percent.isUnreserved id.text.toList)

end ResourceId

structure Session where
  access : Option String := none
  refresh : Option String := none
  user : Option ResourceId := none
  node : Option ResourceId := none
  plan : Option ResourceId := none
  deriving DecidableEq, Repr

namespace Session

def id? (s : Session) : ResourceKind → Option ResourceId
  | .user => s.user
  | .node => s.node
  | .plan => s.plan

def withId (s : Session) (kind : ResourceKind) (id : Option ResourceId) : Session :=
  match kind with
  | .user => { s with user := id }
  | .node => { s with node := id }
  | .plan => { s with plan := id }

/-- Replaces the placeholders of the held kinds, one kind after the other. -/
def substitute (s : Session) (value : ResourceId → String) (template : String) : String :=
  ResourceKind.all.foldl (fun text kind =>
    match s.id? kind with
    | some id => String.ofList
        (Text.replace kind.placeholder.toList (value id).toList text.toList)
    | none => text) template

def render (s : Session) (template : String) : String :=
  s.substitute ResourceId.text template

def renderPath (s : Session) (template : String) : String :=
  s.substitute ResourceId.segment template

end Session

end PanelProbe
