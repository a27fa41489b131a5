import TagCache.Client.Basic
import TagCache.Proofs.Records

/-!
# What describes a failed call

A response that is not a success can be described by the detail of its body, by the body itself, by
the phrase of its status, and by a last resort. The last resort is a text of its own, so there is
always a first of these sources that is not empty.

That source is the description, with one exception. A detail that is a text or a list has the last
word: where it says nothing, nothing is said, although the body would be the next source, and is not
empty. So a call is left without a description exactly if its detail is *wordless*, whatever its
status is.
-/

namespace TagCache

/-! ## Details -/

theorem intercalate_eq_empty_iff {separator : String} (hseparator : separator ≠ "")
    (texts : List String) :
    separator.intercalate texts = "" ↔ (∀ text ∈ texts, text = "") ∧ texts.length ≤ 1 := by
  match texts with
  | [] => simp
  | [text] => simp
  | text :: next :: texts =>
      refine iff_of_false (fun h => ?_) (by simp)
      rw [String.intercalate_cons_cons, String.append_eq_empty_iff] at h
      exact hseparator (String.append_eq_empty_iff.mp h.1).2

namespace Json

/-- The message of a fault. -/
def message? (fault : Json) : Option String := (fault.get? "msg").bind (·.str?)

/-- What a detail says: its text, or the messages of its faults. -/
def wording : Json → String
  | .str text => text
  | .arr faults => "; ".intercalate (faults.filterMap message?)
  | _ => ""

/-- A text or a list of faults that says nothing. A second message is something, even if it is as
empty as the first: there is a semicolon between them. -/
inductive Wordless : Json → Prop where
  | text : Wordless (.str "")
  | faults {faults : List Json} :
      (∀ fault ∈ faults, ∀ message ∈ fault.message?, message = "") →
      faults.countP (·.message?.isSome) ≤ 1 → Wordless (.arr faults)

theorem wordless_str_iff {text : String} : Wordless (.str text) ↔ wording (.str text) = "" := by
  constructor
  · rintro ⟨⟩
    rfl
  · rintro rfl
    exact .text

theorem wordless_arr_iff {faults : List Json} :
    Wordless (.arr faults) ↔ wording (.arr faults) = "" := by
  rw [wording, intercalate_eq_empty_iff (by decide), List.length_filterMap_eq_countP]
  constructor
  · rintro (_ | ⟨hempty, hcount⟩)
    refine ⟨fun message hmem => ?_, hcount⟩
    obtain ⟨fault, hfault, hmessage⟩ := List.mem_filterMap.mp hmem
    exact hempty fault hfault message hmessage
  · rintro ⟨hempty, hcount⟩
    exact .faults (fun fault hfault message hmessage =>
      hempty message (List.mem_filterMap.mpr ⟨fault, hfault, hmessage⟩)) hcount

instance : DecidablePred Wordless
  | .str _ => decidable_of_iff _ wordless_str_iff.symm
  | .arr _ => decidable_of_iff _ wordless_arr_iff.symm
  | .null | .bool _ | .num _ | .obj _ => isFalse nofun

end Json

/-! ## Sources of a description -/

theorem Utf8.read_eq_nil_iff {bytes : List UInt8} : read bytes = [] ↔ bytes = [] := by
  fun_cases read bytes <;> simp only [reduceCtorEq]

theorem Http.ne_empty_of_reason? {code : Nat} {phrase : String} (h : reason? code = some phrase) :
    phrase ≠ "" := by
  have hphrases : ∀ entry ∈ reasons, entry.2 ≠ "" := by decide
  obtain ⟨front, back, hreasons, -⟩ := List.lookup_eq_some_iff.mp h
  exact hphrases (code, phrase) (hreasons ▸ by simp)

namespace Response

variable {r : Response}

/-- The body as a text. -/
def bodyText (r : Response) : String := String.ofList (Utf8.decodeLossy r.body)

/-- What can describe a response, in the order in which it is asked for. -/
def sources (r : Response) : List String :=
  [(r.detail?.map Json.wording).getD "", r.bodyText, (Http.reason? r.status).getD "",
    "unknown status"]

/-- The body is an object with a wordless detail. -/
def Wordless (r : Response) : Prop :=
  ∃ members detail, Json.parse r.body = .ok (.obj members) ∧
    Json.Members.get? members "detail" = some detail ∧ detail.Wordless

theorem wordless_iff : r.Wordless ↔ ∃ detail ∈ r.detail?, detail.Wordless := by
  unfold Wordless detail?
  cases hparse : Json.parse r.body with
  | error _ => simp [Except.toOption]
  | ok value => cases value <;> simp [Except.toOption, Json.get?]

instance : DecidablePred Wordless := fun _ => decidable_of_iff _ wordless_iff.symm

/-- Behind the detail, a response is described by the first source that is not empty. -/
theorem find?_tail_sources (r : Response) :
    r.sources.tail.find? (· ≠ "") = some r.plainDescription := by
  unfold sources bodyText plainDescription
  cases hbody : r.body with
  | nil =>
      cases hreason : Http.reason? r.status with
      | none => rfl
      | some phrase => simp [Utf8.decodeLossy, Utf8.read, Http.ne_empty_of_reason? hreason]
  | cons byte bytes =>
      have hread : Utf8.read (byte :: bytes) ≠ [] :=
        Utf8.read_eq_nil_iff.not.mpr (List.cons_ne_nil byte bytes)
      simp [Utf8.decodeLossy, hread]

/-- A body with a detail is not empty. -/
theorem plainDescription_of_detail {detail : Json} (h : r.detail? = some detail) :
    r.plainDescription = r.bodyText := by
  have hbody : r.body ≠ [] := by
    intro hnil
    have hnone : r.detail? = none := by
      rw [detail?, hnil]
      rfl
    exact absurd (hnone.symm.trans h) nofun
  simp [plainDescription, bodyText, hbody]

theorem description_of_detail {detail : Json} (h : r.detail? = some detail) :
    (r.description = detail.wording ∧ (detail.Wordless ↔ detail.wording = "")) ∨
      (r.description = r.plainDescription ∧ ¬ detail.Wordless ∧ detail.wording = "") := by
  unfold description
  rw [h]
  cases detail with
  | str text => exact .inl ⟨rfl, Json.wordless_str_iff⟩
  | arr faults => exact .inl ⟨rfl, Json.wordless_arr_iff⟩
  | _ => exact .inr ⟨rfl, nofun, rfl⟩

/-- **The first source that is not empty describes a response, unless its detail is wordless.** -/
theorem description_cases (r : Response) :
    (r.Wordless ∧ r.description = "" ∧ r.sources.find? (· ≠ "") = some r.bodyText) ∨
      (¬ r.Wordless ∧ r.sources.find? (· ≠ "") = some r.description) := by
  have htail := r.find?_tail_sources
  rw [wordless_iff]
  cases hdetail : r.detail? with
  | none =>
      have hplain : r.description = r.plainDescription := by
        simp only [description, hdetail]
      refine .inr ⟨by simp, ?_⟩
      simpa [sources, hdetail, hplain] using htail
  | some detail =>
      simp only [Option.mem_some, exists_eq_left']
      obtain ⟨hwording, hwordless⟩ | ⟨hplain, hwordless, hempty⟩ := description_of_detail hdetail
      · by_cases hempty : detail.wording = ""
        · refine .inl ⟨hwordless.mpr hempty, hwording.trans hempty, ?_⟩
          rw [plainDescription_of_detail hdetail] at htail
          simpa [sources, hdetail, hempty] using htail
        · refine .inr ⟨hwordless.not.mpr hempty, ?_⟩
          simp [sources, hdetail, hwording, hempty]
      · refine .inr ⟨hwordless, ?_⟩
        simpa [sources, hdetail, hempty, hplain] using htail

theorem result_of_failed (hknown : r.status ≠ 401) (hfailed : r.isSuccess = false) :
    r.result = .error (.status r.status r.description) := by
  simp [result, hknown, hfailed]

end Response

/-! ## Failed calls -/

namespace Client

variable {client : Client} {network : HttpRequest → Option Response} {request : Request}
  {sent : HttpRequest} {answer : Response}

theorem send_eq_result (hbuild : client.build request = .ok sent) (hcan : canSend sent = true)
    (hanswer : network sent = some answer) : client.send network request = answer.result := by
  simp [send, hbuild, hcan, hanswer, bind, Except.bind]

/-- **What a failed call is described by.** A call that is answered by a status that is neither a
success nor 401 fails with that status. The description is empty if and only if the body is an
object with a wordless detail. Otherwise it is the first source that is not empty; of a wordless
detail, that source would be the body. -/
theorem description_of_send (hbuild : client.build request = .ok sent)
    (hcan : canSend sent = true) (hanswer : network sent = some answer)
    (hknown : answer.status ≠ 401) (hfailed : answer.isSuccess = false) :
    ∃ description, client.send network request = .error (.status answer.status description) ∧
      (description = "" ↔ answer.Wordless) ∧
      (¬ answer.Wordless → answer.sources.find? (· ≠ "") = some description) ∧
      (answer.Wordless → answer.sources.find? (· ≠ "") = some answer.bodyText) := by
  refine ⟨answer.description, ?_, ?_⟩
  · rw [send_eq_result hbuild hcan hanswer, Response.result_of_failed hknown hfailed]
  · obtain ⟨hwordless, hempty, hbody⟩ | ⟨hwordless, hfirst⟩ := answer.description_cases
    · exact ⟨iff_of_true hempty hwordless, fun hnot => absurd hwordless hnot, fun _ => hbody⟩
    · have hne : answer.description ≠ "" := by simpa using List.find?_some hfirst
      exact ⟨iff_of_false hne hwordless, fun _ => hfirst, fun h => absurd h hwordless⟩

end Client

namespace Sample

/-- A client without a token. -/
def localClient : Client :=
  ⟨⟨.http, some ⟨[], none, some (.domain "localhost".toList), some 5050⟩, .rooted [[]], none, none⟩,
    none⟩

/-- What the client sends to ask for the datasets. -/
def datasetsSent : HttpRequest :=
  ⟨.get, { localClient.baseUrl with path := .rooted ["api".toList, "datasets".toList] }, [], none⟩

/-- A response that refuses a request for a reason. -/
def refusal (detail : Json) : Response :=
  ⟨422, Utf8.encode (Json.canonical (.obj [("detail", detail)])).toList⟩

/-- A network that gives one answer to everything. -/
def replies (answer : Response) : HttpRequest → Option Response := fun _ => some answer

/-- What asking for the datasets comes to. -/
def asked (answer : Response) : Except HttpError Json :=
  localClient.send (replies answer) (.get "/api/datasets")

end Sample

namespace Client

/-- Faults with two messages of which one is empty, and a fault with an empty message between
others that have none. -/
theorem description_of_send_faults :
    let spoken := Sample.refusal (.arr [.obj [("msg", .str "")], .obj [("msg", .str "too long")]])
    let wordless := Sample.refusal (.arr [.str "too long", .obj [("msg", .str "")], .obj []])
    Sample.localClient.build (.get "/api/datasets") = .ok Sample.datasetsSent ∧
      Sample.asked spoken = .error (.status 422 "; too long") ∧
      Sample.asked wordless = .error (.status 422 "") := by
  intro spoken wordless
  have hbuild : Sample.localClient.build (.get "/api/datasets") = .ok Sample.datasetsSent := by
    decide +kernel
  have hanswer (answer : Response) : Sample.replies answer Sample.datasetsSent = some answer := rfl
  refine ⟨hbuild, ?_, ?_⟩
  · obtain ⟨description, hsend, -, hfirst, -⟩ :=
      description_of_send hbuild (by decide) (hanswer spoken) (by decide) (by decide)
    have hspoken : ¬ spoken.Wordless := by decide +kernel
    have hsource : spoken.sources.find? (· ≠ "") = some "; too long" := by decide +kernel
    obtain rfl := Option.some.inj (hsource.symm.trans (hfirst hspoken))
    exact hsend
  · obtain ⟨description, hsend, hempty, -, -⟩ :=
      description_of_send hbuild (by decide) (hanswer wordless) (by decide) (by decide)
    have hwordless : wordless.Wordless := by decide +kernel
    obtain rfl := hempty.mpr hwordless
    exact hsend

/-- **A failed call is left without a description.** The detail is a list with a text, which is no
fault with a message; the body would have been the next source. -/
theorem undescribed :
    let answer := Sample.refusal (.arr [.str "name is taken"])
    answer.status ≠ 401 ∧ answer.isSuccess = false ∧
      Sample.asked answer = .error (.status 422 "") ∧
      answer.sources.find? (· ≠ "") = some "\x7b\"detail\":[\"name is taken\"]\x7d" := by
  intro answer
  exact ⟨by decide, by decide, by decide +kernel, by decide +kernel⟩

end Client

end TagCache
