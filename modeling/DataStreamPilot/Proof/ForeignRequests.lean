/-
This file proves that the server refuses the payloads of the batching node and of the test client.
-/

import DataStreamPilot.Construction.Client.Requests
import DataStreamPilot.Construction.Server.Site
import DataStreamPilot.Library.JsonNumber
import DataStreamPilot.Proof.Batching.DeltaStream
import DataStreamPilot.Proof.ClientParity

namespace DataStreamPilot

open Library Library.Json

/-- A message of a batching node has no key `site`. -/
theorem readReport_message (siteName : Nat) (code : DeltaCode.Entry Int16) :
    Server.readReport (Server.payloadBytes (Batching.message siteName code)) =
      .error (.keyError (.string "site")) := by
  have parsed := Batching.loads_message siteName code
  have missing (first second third : JsonValue) :
      Server.getMember (.object [("s", first), ("t", second), ("b", third)]) "site" =
        .error (.keyError (.string "site")) := by
    simp [Server.getMember, member?, List.lookup_cons]
  simp only [Server.readReport, Server.payloadBytes, PythonText.fromUTF8?_toUTF8,
    String.toList_ofList, parsed, missing, bind, Except.bind]

/-- The payload of the test client is not a JSON document. -/
theorem readReport_clientPayload (values : List ℤ) :
    Server.readReport (Server.payloadBytes (Client.payload values)) = .error .jsonDecodeError := by
  have refused : loads (Client.payload values) = none := by
    cases values with
    | nil => decide
    | cons value rest =>
        have split : ∃ tail, Client.payload (value :: rest) =
            PythonText.decimal value ++ ',' :: tail := by
          rw [Client.payload, List.map_cons, setParity_eq]
          cases rest with
          | nil =>
              rw [List.map_nil, List.intercalate_singleton, List.append_assoc]
              exact ⟨_, rfl⟩
          | cons next rest =>
              rw [List.map_cons, List.intercalate_cons_cons, List.append_assoc, List.append_assoc,
                List.append_assoc]
              exact ⟨_, rfl⟩
        obtain ⟨tail, text⟩ := split
        rw [text, loads_decimal_comma]
  simp only [Server.readReport, Server.payloadBytes, PythonText.fromUTF8?_toUTF8,
    String.toList_ofList, refused, bind, Except.bind]

end DataStreamPilot
