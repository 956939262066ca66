import LetterMachine.Service.Server

namespace LetterMachine.Service

theorem Request.target_of_path {r : Request} {e : Endpoint} (haddress : r.address = e.path)
    {type : Text} (htype : r.contentType = some type) (hwhole : isBroken type = false) :
    r.target = .ok ⟨[], e.path⟩ := by
  have hpath : Target.ofAddress e.path = .ok ⟨[], e.path⟩ := by cases e <;> rfl
  unfold Request.target
  rw [haddress, hpath, htype]
  change (if isBroken type = true then _ else _) = _
  rw [hwhole]
  rfl

theorem Request.json_of_bytes {r : Request} {type : Text} (htype : r.contentType = some type)
    (hjson : isJsonType type = true) {depth most : Nat} (hlength : r.content.length ≤ most)
    {j : Json} (hcontent : Json.ofBytes depth r.content = .ok j) : r.json depth most = .ok j := by
  unfold Request.json
  rw [htype, Option.getD_some, hjson, if_neg nofun, if_neg (Nat.not_lt.mpr hlength), hcontent]

theorem destination_path (e : Endpoint) :
    destination "POST".toList ⟨[], e.path⟩ = .route (.endpoint e) := by
  cases e <;> rfl

theorem server_documented (depth : Nat) : (server depth).Documented where
  isJson_json := by
    have hjson : (isJsonType "application/json".toList && !isBroken "application/json".toList) =
        true := by decide +kernel
    exact hjson
  serve_eq app e r type j hmethod haddress htype hjson hlength hcontent := by
    have hupper : Text.upper "POST".toList = "POST".toList := by decide +kernel
    obtain ⟨hjson, hwhole⟩ := Bool.and_eq_true_iff.mp hjson
    have htarget := Request.target_of_path haddress htype (Bool.not_eq_true' _ ▸ hwhole)
    have hvalue : r.json depth app.maxContent = .ok j :=
      Request.json_of_bytes htype hjson hlength hcontent
    change r.target.map (app.answer depth r) = _
    rw [htarget]
    change Except.ok (app.answer depth r ⟨[], e.path⟩) = _
    rw [Application.answer, hmethod, hupper]
    rw [destination_path, hvalue]

end LetterMachine.Service
