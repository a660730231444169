import PanelProbe.Run.State

/-!
Cleaning up: each identifier that is held is dropped and its resource deleted, whatever comes of
the deletions before it.
-/

set_option autoImplicit false

namespace PanelProbe.Run

def deletedStatus : Nat := 200

def deletion (kind : ResourceKind) (id : ResourceId) : Http.Call where
  method := .delete
  path := kind.collection ++ "/" ++ id.segment

def deletionName (kind : ResourceKind) : String := "Cleanup: Delete " ++ kind.title

def settleDeletion (setting : Setting) (kind : ResourceKind) (id : ResourceId)
    (result : Http.Outcome) (s : State) : State :=
  match result with
  | .response status _ =>
    if status = deletedStatus then
      s.record setting (deletionName kind) .pass ("Deleted " ++ kind.name ++ " " ++ id.text)
    else
      (s.log {
        level := .warn, speaker := .cleanup, message := "cleanup deletion rejected"
        fields := [("kind", kind.name), ("id", id.text), ("status", toString status)] }).record
          setting (deletionName kind) .fail ("Status: " ++ toString status)
  | .failure cause =>
    (s.log {
      level := .warn, speaker := .cleanup, message := "cleanup deletion not delivered"
      fields := [("kind", kind.name), ("id", id.text), ("cause", cause)] }).record
        setting (deletionName kind) .fail ("No response: " ++ cause)

/-- Deletes the held resource of a kind; it is no longer held when its deletion is sent. -/
def delete (setting : Setting) (kind : ResourceKind) (s : State) : Progress :=
  match s.session.id? kind with
  | none => ⟨s, none⟩
  | some id =>
    match send setting (deletion kind id)
        { s with session := s.session.withId kind none } with
    | (.outcome result, s) => ⟨settleDeletion setting kind id result s, none⟩
    | (.crash message, s) => ⟨s, some message⟩

/-- Deletes the held resources of some kinds, one after the other, until a deletion crashes. -/
def deleteAll (setting : Setting) : List ResourceKind → State → Progress
  | [], s => ⟨s, none⟩
  | kind :: rest, s =>
    match delete setting kind s with
    | ⟨s, none⟩ => deleteAll setting rest s
    | crashed => crashed

def cleanup (setting : Setting) (s : State) : Progress :=
  deleteAll setting ResourceKind.all
    (s.log { level := .info, speaker := .cleanup, message := "Cleaning up test data..." })

end PanelProbe.Run
