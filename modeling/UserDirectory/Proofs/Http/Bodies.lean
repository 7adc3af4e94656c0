import UserDirectory.Http.App
import UserDirectory.Proofs.Json.RecordReading
import UserDirectory.Proofs.Text.Utf8
import UserDirectory.Proofs.User.Details

/-!
# Proofs.Http.Bodies — of a body only the details matter

* `Tells bodies r d`: the body of the request is an object, within the limit, that tells the
  details.
* `readDetails_tells`: the details that are read from it are these.
* `same_details_same_handling`: two requests that differ in their bodies and in how these are
  coded, but tell the same details, are handled alike.
-/

namespace UserDirectory.Http

open Json (ObjectText)

/-- The body of the request, once it is decoded, is an object that tells the details; it is within
the limit with and without its coding. -/
inductive Request.Tells (bodies : Bodies) (r : Request) (d : Details) : Prop
  | mk {ms t} : r.body.length ≤ maxBody → (Text.octets t).length ≤ maxBody →
    bodies.decode (Coding.ofHeader (r.plainHeader? "content-encoding")) r.body =
      ⟨Text.octets t, none⟩ →
    ObjectText ms t → Details.Tells ms d → Tells bodies r d

/-- The request says that its body is JSON. -/
def Request.SaysJson (r : Request) : Prop :=
  ((r.plainHeader? "content-type").map MediaType.isJsonHeader).getD false = true

section Reading

variable {bodies : Bodies} {r r' : Request} {d : Details}

theorem readDetails_tells (h : r.Tells bodies d) (htype : r.SaysJson) :
    bodies.readDetails r = .ok d := by
  obtain ⟨hsize, hlength, hdecode, hobject, htells⟩ := h
  unfold Bodies.readDetails
  dsimp only
  rw [htype, if_neg (by decide), if_neg (Nat.not_lt.mpr hsize), hdecode]
  dsimp only
  rw [if_neg (Nat.not_lt.mpr hlength)]
  unfold Bodies.details
  rw [Text.ofOctets?_octets]
  dsimp only
  rw [Details.ofText_tells hobject htells]
  rfl

theorem readDetails_of_not_saysJson (htype : ¬ r.SaysJson) :
    bodies.readDetails r = .error .contentType := by
  have hno : ((r.plainHeader? "content-type").map MediaType.isJsonHeader).getD false = false :=
    Bool.eq_false_iff.mpr htype
  unfold Bodies.readDetails
  dsimp only
  rw [hno]
  rfl

/-- What a request asks for depends on method, target and details only. -/
theorem interpret_congr (hmethod : r.method = r'.method) (htarget : r.target = r'.target)
    (hdetails : bodies.readDetails r = bodies.readDetails r') :
    interpret bodies r = interpret bodies r' := by
  have hlisting : listing r = listing r' := by
    unfold listing
    rw [htarget]
  have hwith : ∀ f, withDetails bodies r f = withDetails bodies r' f := by
    intro f
    unfold withDetails
    rw [hdetails]
  unfold interpret
  rw [hmethod, htarget, hlisting]
  simp only [hwith]

end Reading

variable {σ π : Type}

theorem App.handle_congr (app : App σ π) {bodies : Bodies} (trace : Uuid) (now : Instant)
    (freshId : Uuid) {r r' : Request} (hmethod : r.method = r'.method)
    (htarget : r.target = r'.target) (hinterpret : interpret bodies r = interpret bodies r')
    (s : σ) (p : π) :
    app.handle bodies trace now freshId r s p = app.handle bodies trace now freshId r' s p := by
  unfold App.handle requestReport
  rw [hmethod, htarget, hinterpret]

/-- **Clients control the details only**: two requests of the same method, target and content type
whose bodies tell the same details are handled alike, whatever else stands in the bodies and
however they are written: the same call on the store, response, reports, store and bus.  If they
say that their bodies are JSON, it is these details that are read. -/
theorem same_details_same_handling (app : App σ π) (bodies : Bodies) (trace : Uuid)
    (now : Instant) (freshId : Uuid) {r r' : Request} {d : Details}
    (hmethod : r.method = r'.method) (htarget : r.target = r'.target)
    (htype : r.plainHeader? "content-type" = r'.plainHeader? "content-type")
    (h : r.Tells bodies d) (h' : r'.Tells bodies d) (s : σ) (p : π) :
    app.handle bodies trace now freshId r s p = app.handle bodies trace now freshId r' s p ∧
      (r.SaysJson → bodies.readDetails r = .ok d ∧ bodies.readDetails r' = .ok d) := by
  have hsame : r.SaysJson ↔ r'.SaysJson := by
    unfold Request.SaysJson
    rw [htype]
  have hread : r.SaysJson → bodies.readDetails r = .ok d ∧ bodies.readDetails r' = .ok d :=
    fun hjson => ⟨readDetails_tells h hjson, readDetails_tells h' (hsame.mp hjson)⟩
  refine ⟨?_, hread⟩
  have hdetails : bodies.readDetails r = bodies.readDetails r' := by
    by_cases hjson : r.SaysJson
    · rw [(hread hjson).1, (hread hjson).2]
    · rw [readDetails_of_not_saysJson hjson,
        readDetails_of_not_saysJson fun hjson' => hjson (hsame.mpr hjson')]
  exact app.handle_congr trace now freshId hmethod htarget
    (interpret_congr hmethod htarget hdetails) s p

/-- A creation with the six members in order; and one that asks for a time of creation besides, of
nested values with half of a surrogate pair among them, and escapes a name and a text. -/
theorem same_details_same_handling_forged :
    let details : Details := ⟨"A", "B", "C", "D", "e@example.com", "F"⟩
    let others := [("last_name", "B"), ("nickname", "C"), ("password", "D"),
      ("email", "e@example.com"), ("country", "F")]
    let plain := (Json.object (Json.Shape.texts (("first_name", "A") :: others))).print
    let nested := "[-0.5e+7,\x7b\"\\ud800\":null\x7d]".toList
    let created := "\n\"created_at\" : ".toList ++ nested
    let first := " \"first\\u005fname\":\"\\u0041\" ".toList
    let forged := '\x7b' :: ((created ++ ',' :: (first ++ ',' ::
      Json.printMembers (Json.Shape.texts others))) ++ ['\x7d'])
    let ask (body : List Char) : Request :=
      ⟨"POST", ⟨"/v1/users".toList, []⟩, [("content-type", "application/json")],
        Text.octets body⟩
    let app : App Store (List Event) := ⟨.memory, .recording, .starting ⟨"users", "1"⟩⟩
    let now : Instant := ⟨0, 0, by decide, by decide⟩
    let id : Uuid := ⟨7, by decide⟩
    let bodies := Bodies.plain
    ((ask plain).Tells bodies details ∧ (ask forged).Tells bodies details ∧
      (ask plain).SaysJson) ∧
      app.handle bodies id now id (ask plain) Keyed.empty [] =
        app.handle bodies id now id (ask forged) Keyed.empty [] ∧
      bodies.readDetails (ask forged) = .ok details := by
  intro details others plain nested created first forged ask app now id bodies
  have hasked : ∀ {body ms}, (Text.octets body).length ≤ maxBody → ObjectText ms body →
      Details.Tells ms details → (ask body).Tells bodies details := by
    intro body ms hsize hobject htells
    have hheader : (ask []).plainHeader? "content-encoding" = none := by decide +kernel
    have hcoding : (ask body).plainHeader? "content-encoding" = none := hheader
    refine .mk hsize hsize ?_ hobject htells
    rw [hcoding]
    rfl
  have htells : ∀ {ms v}, (ms.map Prod.fst).Nodup → ("first_name", v) ∈ ms →
      Json.StringText "A" v → Json.Shape.printed others ⊆ ms → Details.Tells ms details := by
    intro ms v hnames hfirst hv hothers
    refine Details.tells_of_mem hnames fun name s hmem => ?_
    rcases List.mem_cons.mp hmem with hmem | hmem
    · cases hmem
      exact ⟨v, hfirst, hv⟩
    · have hother : (name, s) ∈ others := by
        simpa [Details.members, others] using hmem
      exact ⟨_, hothers (List.mem_map_of_mem hother), Json.stringText_quote s⟩
  have hplain : (ask plain).Tells bodies details := by
    have hobject := Json.Shape.objectText_print (("first_name", "A") :: others)
    exact hasked (by decide +kernel) hobject (htells (by decide) List.mem_cons_self
      (Json.stringText_quote "A") (List.subset_cons_self _ _))
  have hnone : Json.Blanks [] := by decide
  have hspace : Json.Blanks [' '] := by decide
  have hline : Json.Blanks ['\n'] := by decide
  have hself := Json.Padded.self
  have hnested : Json.ValueText nested := by
    have hfive : Json.Digits ['5'] := by decide
    have hseven : Json.Digits ['7'] := by decide
    have hnumber := Json.ValueText.number (.negative .zero (.digits hfive)
      (.signed (.inl (Eq.refl 'e')) (.inl (Eq.refl '+')) hseven))
    have hhalf : Json.Inside "\\ud800".toList :=
      .unit (.mk (a := 'd') (b := '8') (c := '0') (d := '0') rfl rfl rfl rfl) .nil
    have hnull : Json.ValueText "null".toList := .word List.mem_cons_self
    have hmember := Json.MemberText.mk (m := ("\\ud800".toList, "null".toList)) (hself _) (hself _)
    have hobject := Json.ValueText.object (.one hmember) (by simpa using hhalf)
      (by simpa using hnull)
    have hitems := Json.Listed.more (hself "-0.5e+7".toList)
      (.one (hself "\x7b\"\\ud800\":null\x7d".toList))
    exact .array hitems (by simpa using ⟨hnumber, hobject⟩)
  have hcreated : Json.NamedMember ("created_at", nested) created := by
    have hspells := Json.spells_escaped "created_at".toList
    have hmember := Json.MemberText.mk (m := ("created_at".toList.flatMap Json.escapeChar, nested))
      (.mk hline hspace) (.mk hspace hnone)
    rw [List.append_nil] at hmember
    exact .mk hspells hmember
  have hletter : Json.Spells "A".toList "\\u0041".toList := by
    have hunit := Json.UnitText.mk (a := '0') (b := '0') (c := '4') (d := '1') rfl rfl rfl rfl
    exact .unit (c := 'A') hunit .nil
  have hname : Json.Spells "first_name".toList "first\\u005fname".toList := by
    have hunit := Json.UnitText.mk (a := '0') (b := '0') (c := '5') (d := 'f') rfl rfl rfl rfl
    iterate 5 refine .literal (by decide) ?_
    refine .unit (c := '_') hunit ?_
    iterate 4 refine .literal (by decide) ?_
    exact .nil
  have hfirst : Json.NamedMember ("first_name", Json.quoted "\\u0041".toList) first :=
    .mk hname (.mk (.mk hspace hnone) (.mk hnone hspace))
  have hforged : (ask forged).Tells bodies details := by
    have hlisted := Json.Listed.more hcreated (.more hfirst (Json.Shape.listed_print others))
    refine hasked (by decide +kernel) (.mk hlisted ?_ (hself _))
      (htells (by decide) (List.mem_cons_of_mem _ List.mem_cons_self) ⟨_, hletter, rfl⟩ ?_)
    · rw [List.forall_mem_cons, List.forall_mem_cons]
      exact ⟨hnested, .string hletter.inside, (Json.Shape.objectText_print others).values⟩
    · exact fun m hm => List.mem_cons_of_mem _ (List.mem_cons_of_mem _ hm)
  have hjson : (ask plain).SaysJson := by
    unfold Request.SaysJson
    decide +kernel
  have hmethod : (ask plain).method = (ask forged).method := rfl
  have htarget : (ask plain).target = (ask forged).target := rfl
  have htype : (ask plain).plainHeader? "content-type" = (ask forged).plainHeader? "content-type" :=
    rfl
  obtain ⟨hhandled, hread⟩ := same_details_same_handling app bodies id now id hmethod htarget htype
    hplain hforged Keyed.empty []
  exact ⟨⟨hplain, hforged, hjson⟩, hhandled, (hread hjson).2⟩

end UserDirectory.Http
