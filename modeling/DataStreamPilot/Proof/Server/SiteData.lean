/-
This file describes the attribute `site_data` by the buffer of each sensor.
The handler changes no key, so every reachable dictionary has the keys of the initial one.
-/

import DataStreamPilot.Construction.Server.RenderPost

namespace DataStreamPilot.Server

open Library Library.Json

/-- `site_data[siteName][sensor]` -/
def sensorEntry (siteData : SiteData) (siteName sensor : String) : Option SensorBuffer :=
  (siteData.lookup siteName).bind fun sensors => sensors.lookup sensor

/-- The constructor makes a buffer for the sensor of the site. -/
def hasSensor (siteName sensor : String) : Bool :=
  (sensorEntry initialSiteData siteName sensor).isSome

/-- The constructor gives every site the same sensors. -/
theorem initialSiteData_sensors {siteName : String} {sensors : Dictionary String SensorBuffer}
    (found : initialSiteData.lookup siteName = some sensors) : sensors = emptySensors := by
  obtain ⟨before, after, split, _⟩ := List.lookup_eq_some_iff.mp found
  have member : (siteName, sensors) ∈ initialSiteData := by
    rw [split]
    exact List.mem_append_right _ List.mem_cons_self
  have same : ∀ entry ∈ initialSiteData, entry.2 = emptySensors := by decide
  exact same (siteName, sensors) member

/-- A present sensor is one of the three sensors of a present site. -/
theorem hasSensor_eq (siteName sensor : String) :
    hasSensor siteName sensor =
      ((initialSiteData.lookup siteName).isSome && (emptySensors.lookup sensor).isSome) := by
  rw [hasSensor, sensorEntry]
  cases found : initialSiteData.lookup siteName with
  | none => rfl
  | some sensors =>
      rw [initialSiteData_sensors found]
      rfl

/-- No site has a sensor with the name `values`. -/
theorem hasSensor_values (siteName : String) : hasSensor siteName "values" = false := by
  have missing : (emptySensors.lookup "values").isSome = false := by decide
  rw [hasSensor_eq, missing, Bool.and_false]

/-- The three sensors of a site are present together. -/
theorem hasSensor_of_site {siteName sensor other : String}
    (present : hasSensor siteName sensor = true)
    (known : (emptySensors.lookup other).isSome = true) : hasSensor siteName other = true := by
  rw [hasSensor_eq, Bool.and_eq_true] at present ⊢
  exact ⟨present.1, known⟩

/-- The dictionary with the initial keys and the given buffers. -/
def siteDataFrom (buffers : String → String → SensorBuffer) : SiteData :=
  initialSiteData.mapEntries fun siteName sensors =>
    Dictionary.mapEntries sensors fun sensor _ => buffers siteName sensor

/-- The entry of a sensor in such a dictionary. -/
theorem sensorEntry_siteDataFrom (buffers : String → String → SensorBuffer)
    (siteName sensor : String) :
    sensorEntry (siteDataFrom buffers) siteName sensor =
      (sensorEntry initialSiteData siteName sensor).map fun _ => buffers siteName sensor := by
  rw [sensorEntry, sensorEntry, siteDataFrom, Dictionary.lookup_mapEntries]
  cases initialSiteData.lookup siteName with
  | none => rfl
  | some sensors => exact Dictionary.lookup_mapEntries sensors _ sensor

theorem sensorEntry_of_hasSensor (buffers : String → String → SensorBuffer)
    {siteName sensor : String} (present : hasSensor siteName sensor = true) :
    sensorEntry (siteDataFrom buffers) siteName sensor = some (buffers siteName sensor) := by
  obtain ⟨buffer, found⟩ := Option.isSome_iff_exists.mp present
  rw [sensorEntry_siteDataFrom, found, Option.map_some]

theorem sensorEntry_of_not_hasSensor (buffers : String → String → SensorBuffer)
    {siteName sensor : String} (absent : hasSensor siteName sensor = false) :
    sensorEntry (siteDataFrom buffers) siteName sensor = none := by
  have missing := Option.isNone_iff_eq_none.mp (Option.isSome_eq_false_iff.mp absent)
  rw [sensorEntry_siteDataFrom, missing, Option.map_none]

/-- A change of one buffer is a change of the table. -/
theorem modifyBuffer_siteDataFrom (buffers : String → String → SensorBuffer)
    (siteName sensor : String) (change : SensorBuffer → SensorBuffer) :
    modifyBuffer (siteDataFrom buffers) siteName sensor change =
      siteDataFrom fun site name =>
        if site = siteName ∧ name = sensor then change (buffers site name)
        else buffers site name := by
  rw [modifyBuffer, siteDataFrom, Dictionary.modify_mapEntries]
  apply Dictionary.mapEntries_congr
  intro site sensors _
  by_cases same : site = siteName
  · rw [if_pos same, Dictionary.modify_mapEntries]
    simp only [same, true_and]
  · simp only [same, false_and, if_false]

/-- The handler finds the buffer of a present sensor. -/
theorem getBuffer_found {siteData : SiteData} {siteName sensor : String} {buffer : SensorBuffer}
    (found : sensorEntry siteData siteName sensor = some buffer) :
    getBuffer siteData siteName (.string sensor) = .ok (sensor, buffer) := by
  obtain ⟨sensors, site, entry⟩ := Option.bind_eq_some_iff.mp found
  simp only [getBuffer, getItem, site, entry, bind, Except.bind]

/-- The lookup of an absent sensor raises an exception. -/
theorem getBuffer_missing {siteData : SiteData} {siteName sensor : String}
    (missing : sensorEntry siteData siteName sensor = none) :
    ∃ error, getBuffer siteData siteName (.string sensor) = .error error := by
  cases site : siteData.lookup siteName with
  | none =>
      simp only [getBuffer, getItem, site, bind, Except.bind]
      exact ⟨_, rfl⟩
  | some sensors =>
      have entry : sensors.lookup sensor = none := by simpa [sensorEntry, site] using missing
      simp only [getBuffer, getItem, site, entry, bind, Except.bind]
      exact ⟨_, rfl⟩

/-- A key that is not a string names no sensor. -/
theorem getBuffer_not_string (siteData : SiteData) (siteName : String) {sensor : JsonValue}
    (other : ∀ name, sensor ≠ .string name) :
    ∃ error, getBuffer siteData siteName sensor = .error error := by
  cases site : siteData.lookup siteName with
  | none =>
      simp only [getBuffer, getItem, site, bind, Except.bind]
      exact ⟨_, rfl⟩
  | some sensors =>
      cases sensor with
      | string name => exact absurd rfl (other name)
      | _ =>
          simp only [getBuffer, getItem, site, bind, Except.bind]
          exact ⟨_, rfl⟩

end DataStreamPilot.Server
