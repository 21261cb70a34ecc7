/-
This file models the resources of the server and the call of the database.
The database client is external. It writes a point or raises an exception.
-/

import DataStreamPilot.Construction.Coap.Command
import DataStreamPilot.Construction.Server.RenderPost

namespace DataStreamPilot.Server

open Library Library.Json

/-- The dictionary `tags` of one point. -/
structure Tags where
  place : String
  sensor : String
  outlier : Bool
  deriving DecidableEq

/-- One point of the database. The name of the site is the measurement. -/
structure Point where
  measurement : String
  tags : Tags
  value : ExactFloat
  deriving DecidableEq

/-- `decodedValue/100.0` -/
def toDegrees : ExactFloat → ExactFloat
  | .nan => .nan
  | .infinity negative => .infinity negative
  | .real value => .real (value / 100)

/-- The point that `sendInfluxdb` saves. -/
def sendInfluxdb (record : Record) : Except PyError Point := do
  let place ← getItem sites record.site
  .ok ⟨place, ⟨place, record.sensor, record.isOutlier⟩, toDegrees record.decodedValue⟩

/-- A handler answers or raises an exception. -/
inductive Reply where
  | statusOk
  | serverError
  deriving DecidableEq, Repr

/-- The whole handler of a post. A point that is not written raises an exception. -/
def handlePost (siteData : SiteData) (payload : ByteArray) (written : Bool) :
    SiteData × List Point × Reply :=
  match renderPost siteData payload with
  | (next, .error _) => (next, [], .serverError)
  | (next, .ok record) =>
      match sendInfluxdb record with
      | .error _ => (next, [], .serverError)
      | .ok point => if written then (next, [point], .statusOk) else (next, [], .serverError)

/-- The bytes of a payload of ASCII characters. -/
def payloadBytes (payload : List Char) : ByteArray := (String.ofList payload).toUTF8

/-- A post to the path `temp` reaches the resource `Temperature`. No other request does. -/
def reachesTemperature (request : Coap.Request) : Bool :=
  decide (request.method = .post ∧ request.path = some "/temp".toList)

/-- What one request does to the buffers and to the database. -/
def handleRequest (siteData : SiteData) (request : Coap.Request) (written : Bool) :
    SiteData × List Point :=
  if reachesTemperature request then
    let (next, points, _) := handlePost siteData (payloadBytes request.payload) written
    (next, points)
  else (siteData, [])

end DataStreamPilot.Server
