import PanelProbe.Scenario.Fixture
import PanelProbe.Scenario.Step

/-!
The scenario that every run goes through: health probes, authentication, the management of users,
nodes and plans, traffic statistics, the system, and which user uses which node.
-/

set_option autoImplicit false

namespace PanelProbe.Scenario

private def probe (name path : String) : Step :=
  { name, method := .get, path, scope := .root, authorized := false }

private def read (name path detail : String) : Step :=
  { name, method := .get, path, detail }

def health : Phase where
  name := "health"
  steps := [
    probe "Health Check" "/health",
    probe "Liveness Check" "/livez",
    probe "Readiness Check" "/readyz"]

def authentication (f : Fixture) (admin : Credentials) : Phase where
  name := "authentication"
  steps := [
    { name := "User Registration", method := .post, path := "/auth/register", expect := 201
      payload := .body f.registration, authorized := false, capture := .tokens
      detail := "Created user: " ++ f.registrationUsername },
    { name := "Admin Login", method := .post, path := "/auth/login"
      payload := .body (Fixture.login admin), authorized := false, capture := .tokens
      detail := "Successfully logged in as " ++ admin.username },
    read "Get Profile" "/auth/profile" "Retrieved user profile",
    { name := "Token Refresh", method := .post, path := "/auth/refresh"
      payload := .refreshToken, authorized := false, capture := .accessToken
      detail := "Successfully refreshed token" }]

def users (f : Fixture) : Phase where
  name := "user management"
  steps := [
    { name := "List Users", method := .get, path := "/admin/users"
      capture := .firstListedId .user, detail := "Retrieved users list" },
    { name := "Create User", method := .post, path := "/admin/users", expect := 201
      payload := .body f.user, capture := .createdId .user
      detail := "Created user: " ++ f.userUsername },
    read "Get User" "/admin/users/\x7buser_id\x7d" "Retrieved user \x7buser_id\x7d",
    { name := "Update User", method := .put, path := "/admin/users/\x7buser_id\x7d"
      payload := .body Fixture.userUpdate, detail := "Updated user \x7buser_id\x7d" },
    { name := "Reset User Traffic", method := .post
      path := "/admin/users/\x7buser_id\x7d/reset-traffic"
      detail := "Reset traffic for user \x7buser_id\x7d" }]

def nodes (f : Fixture) : Phase where
  name := "node management"
  steps := [
    read "List Nodes" "/admin/nodes" "Retrieved nodes list",
    { name := "Create Node", method := .post, path := "/admin/nodes", expect := 201
      payload := .body f.node, capture := .createdId .node
      detail := "Created node: " ++ f.nodeName },
    read "Get Node" "/admin/nodes/\x7bnode_id\x7d" "Retrieved node \x7bnode_id\x7d",
    { name := "Update Node", method := .put, path := "/admin/nodes/\x7bnode_id\x7d"
      payload := .body Fixture.nodeUpdate, detail := "Updated node \x7bnode_id\x7d" }]

def plans (f : Fixture) : Phase where
  name := "plan management"
  steps := [
    read "List Plans" "/admin/plans" "Retrieved plans list",
    { name := "Create Plan", method := .post, path := "/admin/plans", expect := 201
      payload := .body f.plan, capture := .createdId .plan
      detail := "Created plan: " ++ f.planName },
    read "Get Plan" "/admin/plans/\x7bplan_id\x7d" "Retrieved plan \x7bplan_id\x7d"]

def trafficOver (window : Json) : Phase where
  name := "traffic statistics"
  steps := [
    { read "Traffic Statistics" "/traffic/statistics" "Retrieved traffic statistics" with
      payload := .body window },
    { read "Traffic Chart" "/traffic/chart" "Retrieved traffic chart data" with
      payload := .body window },
    read "Live Traffic" "/traffic/live" "Retrieved live traffic data",
    read "Traffic Summary" "/traffic/summary" "Retrieved traffic summary",
    { read "Top Users Traffic" "/traffic/top-users" "Retrieved top users" with
      payload := .body Fixture.topQuery },
    { read "Top Nodes Traffic" "/traffic/top-nodes" "Retrieved top nodes" with
      payload := .body Fixture.topQuery }]

/-- Traffic statistics of the last days, unless the window starts before the first date. -/
def traffic? (f : Fixture) : Option Phase := f.trafficQuery?.map trafficOver

def system : Phase where
  name := "system"
  steps := [
    read "System Status" "/system/status" "Retrieved system status",
    read "System Dashboard" "/system/dashboard" "Retrieved dashboard data",
    read "System Statistics" "/system/statistics" "Retrieved system statistics"]

def relationships : Phase where
  name := "user-node relationships"
  steps := [
    { name := "Add User to Node", method := .post
      path := "/admin/users/\x7buser_id\x7d/nodes/\x7bnode_id\x7d"
      detail := "Added user \x7buser_id\x7d to node \x7bnode_id\x7d" },
    read "Get User Nodes" "/admin/users/\x7buser_id\x7d/nodes"
      "Retrieved nodes for user \x7buser_id\x7d",
    read "Get Node Users" "/admin/nodes/\x7bnode_id\x7d/users"
      "Retrieved users for node \x7bnode_id\x7d"]
  gate := [.user, .node]

def windowOverflow : String := "\x60NaiveDate - TimeDelta\x60 overflowed"

def canonical? (f : Fixture) (admin : Credentials) : Option (List Phase) :=
  (traffic? f).map fun traffic =>
    [health, authentication f admin, users f, nodes f, plans f, traffic, system, relationships]

end PanelProbe.Scenario
