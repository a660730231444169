import PanelProbe.Calendar.Date
import PanelProbe.Json.Basic

/-!
The payloads of a scenario. Names and addresses end in a suffix that sets apart the runs against
one server.
-/

set_option autoImplicit false

namespace PanelProbe

structure Credentials where
  username : String := "admin"
  password : String := "admin123"
  deriving DecidableEq, Repr

/-- What sets a run apart: the suffix of its names and the day it takes place. -/
structure Fixture where
  suffix : Int
  today : Calendar.Date
  deriving DecidableEq, Repr

namespace Fixture

def windowDays : Nat := 7

def named (f : Fixture) (stem : String) : String :=
  stem ++ String.ofList (Text.integer f.suffix)

def registrationUsername (f : Fixture) : String := f.named "testuser_"

def userUsername (f : Fixture) : String := f.named "apitest_"

def nodeName (f : Fixture) : String := f.named "Test Node "

def planName (f : Fixture) : String := f.named "Test Plan "

def registration (f : Fixture) : Json :=
  .ofMembers [
    ("username", .string f.registrationUsername),
    ("email", .string (f.named "test_" ++ "@example.com")),
    ("password", .string "testpassword123"),
    ("display_name", .string "Test User")]

def login (admin : Credentials) : Json :=
  .ofMembers [("username", .string admin.username), ("password", .string admin.password)]

def user (f : Fixture) : Json :=
  .ofMembers [
    ("username", .string f.userUsername),
    ("email", .string (f.named "apitest_" ++ "@example.com")),
    ("password", .string "testpassword123"),
    ("display_name", .string "API Test User"),
    ("plan_id", .int 1),
    ("traffic_quota", .int 10737418240),
    ("device_limit", .int 3),
    ("speed_limit", .int 0)]

def userUpdate : Json :=
  .ofMembers [("display_name", .string "Updated API Test User"), ("device_limit", .int 5)]

def realOne : Json := .number (.real ⟨false, Nat.pow 2 52, -52⟩)

def node (f : Fixture) : Json :=
  .ofMembers [
    ("name", .string f.nodeName),
    ("description", .string "API Test Node"),
    ("type", .string "vmess"),
    ("host", .string "test.example.com"),
    ("port", .int 443),
    ("uuid", .string "550e8400-e29b-41d4-a716-446655440000"),
    ("region", .string "US"),
    ("country", .string "United States"),
    ("city", .string "New York"),
    ("max_users", .int 100),
    ("speed_limit", .int 0),
    ("traffic_rate", realOne),
    ("is_enabled", .bool true)]

def nodeUpdate : Json :=
  .ofMembers [("description", .string "Updated API Test Node"), ("max_users", .int 200)]

def plan (f : Fixture) : Json :=
  .ofMembers [
    ("name", .string f.planName),
    ("description", .string "API Test Plan"),
    ("period", .string "monthly"),
    ("price", .int 1000),
    ("currency", .string "USD"),
    ("traffic_quota", .int 107374182400),
    ("speed_limit", .int 0),
    ("device_limit", .int 5),
    ("connection_limit", .int 0),
    ("allowed_protocols", .array [.string "vmess", .string "vless", .string "trojan"]),
    ("allowed_nodes", .array []),
    ("enable_file_sharing", .bool true),
    ("enable_port_forwarding", .bool false),
    ("enable_p2p", .bool true),
    ("enable_torrent", .bool false),
    ("priority", .int 1),
    ("bandwidth_ratio", realOne),
    ("restriction_level", .int 0),
    ("blocked_domains", .array []),
    ("allowed_countries", .array [.string "US", .string "EU", .string "AS"]),
    ("is_trial_plan", .bool false),
    ("trial_days", .int 0),
    ("is_promotional", .bool false),
    ("promotion_price", .int 0),
    ("is_public", .bool true),
    ("is_enabled", .bool true),
    ("max_users", .int 0),
    ("color", .string "#007bff"),
    ("icon", .string "star"),
    ("sort_order", .int 1),
    ("is_recommended", .bool false),
    ("features", .ofMembers [("priority_support", .bool true), ("custom_dns", .bool true)]),
    ("metadata", .ofMembers [("created_by", .string "api_test")])]

/-- The window of a traffic query: the last seven days up to today, or nothing when its first day
is not represented. -/
def trafficQuery? (f : Fixture) : Option Json :=
  (f.today.before? windowDays).map fun start =>
    .ofMembers [
      ("start_date", .string start.text),
      ("end_date", .string f.today.text),
      ("granularity", .string "daily"),
      ("include_top", .string "true")]

def topQuery : Json := .ofMembers [("limit", .int 10)]

end Fixture

end PanelProbe
