import Mathlib.Data.List.TakeWhile
import Roster.Proofs.BackendErrands
import Roster.Proofs.FaultHop
import Roster.Proofs.TextForms

/-!
What backends take from the requests of their clients. Wherever a backend is reached, its routes
find in the target just the key and the options that the client was called with.
-/

namespace Roster.Http

open Text (Bytes)
open Text.Utf8 (encodeChars)

/-- A URL that names a server, and nothing on it; or nothing at all, where the server is known. -/
inductive IsRoot : List Char → Prop where
  | unnamed : IsRoot []
  | server (scheme authority : List Char) (noMark : ∀ c ∈ scheme, c ≠ ':' ∧ c ≠ '/')
      (noPath : ∀ c ∈ authority, c ≠ '/' ∧ c ≠ '?' ∧ c ≠ '#') :
      IsRoot (scheme ++ ':' :: '/' :: '/' :: authority)

namespace Request

def sentTo (request : Request) (url : String) : Request :=
  { request with target := url ++ request.target }

variable (request : Request)

theorem place_sentTo (url : String) (isRoot : IsRoot url.toList) (rest : List Char)
    (rooted : request.target.toList = '/' :: rest) :
    (request.sentTo url).place = '/' :: rest := by
  have whole : (request.sentTo url).target.toList = url.toList ++ '/' :: rest := by
    rw [sentTo, String.toList_append, rooted]
  unfold place
  rw [whole]
  generalize url.toList = server at *
  cases isRoot with
  | unnamed => rfl
  | server scheme authority noMark noPath =>
      have afterScheme : (scheme ++ ':' :: '/' :: '/' :: authority ++ '/' :: rest).dropWhile
          (fun c => c != ':' && c != '/') = ':' :: '/' :: '/' :: (authority ++ '/' :: rest) := by
        rw [List.append_assoc, List.dropWhile_append_of_pos]
        · rfl
        · intro c mem
          simp [noMark c mem]
      have afterAuthority : (authority ++ '/' :: rest).dropWhile
          (fun c => c != '/' && c != '?' && c != '#') = '/' :: rest := by
        rw [List.dropWhile_append_of_pos]
        · rfl
        · intro c mem
          simp [noPath c mem]
      simp only [afterScheme, afterAuthority, List.head?_cons, if_true]

/-- A request whose target was written from plain pieces and plain fields. -/
structure Spells (pieces : List (List Char)) (fields : List (List Char × List Char)) : Prop where
  target : request.target.toList = Text.pathChars pieces ++ '?' :: Text.formChars fields
  rooted : pieces ≠ []
  plainPieces : ∀ piece ∈ pieces, ∀ c ∈ piece, Text.isPlain c = true
  plainFields : ∀ field ∈ fields,
    (∀ c ∈ field.1, Text.isPlain c = true) ∧ ∀ c ∈ field.2, Text.isPlain c = true

section Spells

variable (pieces : List (List Char)) (fields : List (List Char × List Char))
  (spells : request.Spells pieces fields) (url : String) (isRoot : IsRoot url.toList)

include spells

theorem path_ne (mark : Char) (noSlash : mark ≠ '/') (marks : Text.isPlain mark = false) (c : Char)
    (mem : c ∈ Text.pathChars pieces) : c ≠ mark := by
  rcases Text.mem_pathChars pieces spells.plainPieces c mem with rfl | plain
  · exact noSlash.symm
  · exact Text.ne_of_plain c mark plain marks

include isRoot

theorem place_spelled : (request.sentTo url).place =
    Text.pathChars pieces ++ '?' :: Text.formChars fields := by
  cases found : pieces with
  | nil => exact absurd found spells.rooted
  | cons piece rest =>
      apply place_sentTo request url isRoot
      rw [spells.target, found]
      rfl

theorem path_spelled : (request.sentTo url).path = String.ofList (Text.pathChars pieces) := by
  rw [path, place_spelled request pieces fields spells url isRoot, List.takeWhile_append_of_pos]
  · simp
  · intro c mem
    have noQuery := path_ne request pieces fields spells '?' (by decide) (by decide) c mem
    have noFragment := path_ne request pieces fields spells '#' (by decide) (by decide) c mem
    simp [noQuery, noFragment]

theorem pieces_spelled : (request.sentTo url).pieces = [] :: pieces := by
  have ascii : ∀ c ∈ Text.pathChars pieces, c.toNat < 0x80 := by
    intro c mem
    rcases Text.mem_pathChars pieces spells.plainPieces c mem with rfl | plain
    · decide
    · exact Text.plain_ascii c plain
  have noEscape := Text.byte_ne _ ascii '%' (by decide)
    fun mem => path_ne request pieces fields spells '%' (by decide) (by decide) '%' mem rfl
  rw [Request.pieces, path_spelled request pieces fields spells url isRoot, Text.Utf8.encode,
    String.toList_ofList, Text.percentDecode_clear keptInPath _ noEscape,
    Text.Utf8.decodeLossy_encodeChars, String.toList_ofList]
  exact Text.splitOnP_pathChars pieces spells.plainPieces

theorem query_spelled : (request.sentTo url).query = String.ofList (Text.formChars fields) := by
  have noFragment : ∀ c ∈ Text.pathChars pieces ++ '?' :: Text.formChars fields, c ≠ '#' := by
    intro c mem
    rcases List.mem_append.mp mem with own | mem
    · exact path_ne request pieces fields spells '#' (by decide) (by decide) c own
    · rcases List.mem_cons.mp mem with rfl | own
      · decide
      · rcases Text.mem_formChars fields spells.plainFields c own with rfl | rfl | plain
        · decide
        · decide
        · exact Text.ne_of_plain c '#' plain (by decide)
  have whole := List.takeWhile_eq_self_iff.mpr fun c mem => bne_iff_ne.mpr (noFragment c mem)
  rw [query, place_spelled request pieces fields spells url isRoot, whole,
    List.dropWhile_append_of_pos]
  · simp
  · intro c mem
    exact bne_iff_ne.mpr (path_ne request pieces fields spells '?' (by decide) (by decide) c mem)

theorem fields_spelled : (request.sentTo url).fields =
    fields.map fun field => (String.ofList field.1, String.ofList field.2) := by
  rw [Request.fields, query_spelled request pieces fields spells url isRoot, Text.Utf8.encode,
    String.toList_ofList]
  exact Text.formFields_formChars fields spells.plainFields

end Spells

end Request

theorem key_plain (piece : List Char) (plain : ∀ c ∈ piece, Text.isPlain c = true) :
    key? piece = signed? piece := by
  have clear := Text.plain_byte_ne piece plain '%' (by decide) (by decide)
  rw [key?, Text.percentDecode_clear [] _ clear, Text.Utf8.decodeLossy_encodeChars,
    String.toList_ofList]

namespace Client

/-! ### Organizations -/

section Organization

variable (id : Id) (options : ReadOptions)

theorem organizationRequest_spells : (organizationRequest id options).Spells
    ["organization".toList, Json.Value.intChars id.toInt]
    [("delay".toList, Text.digits options.delay.toNat),
      ("faultPercent".toList, Text.digits options.fault.toNat)] where
  target := by
    have delay : (toString options.delay).toList = Text.digits options.delay.toNat :=
      Nat.toList_repr
    have fault : (toString options.fault).toList = Text.digits options.fault.toNat :=
      Nat.toList_repr
    simp only [organizationRequest, String.toList_append, toString_key, delay, fault,
      Text.pathChars, Text.formChars, Text.fieldChars, List.flatMap_cons, List.flatMap_nil,
      List.append_assoc, List.cons_append]
    rfl
  rooted := List.cons_ne_nil _ _
  plainPieces := by
    have name : ∀ c ∈ "organization".toList, Text.isPlain c = true :=
      List.all_eq_true.mp (by decide)
    exact List.forall_mem_cons.mpr
      ⟨name, List.forall_mem_singleton.mpr (plain_intChars id.toInt)⟩
  plainFields := by
    have delay : ∀ c ∈ "delay".toList, Text.isPlain c = true :=
      List.all_eq_true.mp (by decide)
    have fault : ∀ c ∈ "faultPercent".toList, Text.isPlain c = true :=
      List.all_eq_true.mp (by decide)
    exact List.forall_mem_cons.mpr ⟨⟨delay, Text.plain_digits _⟩,
      List.forall_mem_singleton.mpr ⟨fault, Text.plain_digits _⟩⟩

theorem staging_spelled : staging? [("delay", String.ofList (Text.digits options.delay.toNat)),
    ("faultPercent", String.ofList (Text.digits options.fault.toNat))] =
      some options.toStaging := by
  have delay := unsigned_digits 64 options.delay.toNat (UInt64.toNat_lt options.delay)
  have fault := unsigned_digits 32 options.fault.toNat (UInt32.toNat_lt options.fault)
  simp [staging?, field?, delay, fault]

variable (url : String) (isRoot : IsRoot url.toList)

include isRoot

theorem organizationRequest_errand :
    Organizations.errand? ((organizationRequest id options).sentTo url) =
      some (.read id options.toStaging) := by
  have spells := organizationRequest_spells id options
  have pieces := Request.pieces_spelled _ _ _ spells url isRoot
  have fields := Request.fields_spelled _ _ _ spells url isRoot
  have key : key? (Json.Value.intChars id.toInt) = some id := by
    rw [key_plain _ (plain_intChars id.toInt), signed_intChars]
  cases spelled : Json.Value.intChars id.toInt with
  | nil => rw [spelled] at key; cases key
  | cons first rest =>
      rw [spelled] at pieces key
      unfold Organizations.errand?
      rw [pieces, fields]
      simp only [List.map_cons, List.map_nil, String.ofList_toList, String.ofList_nil,
        staging_spelled, List.getLast?_cons_cons, List.getLast?_singleton, key]
      rfl

end Organization

/-! ### Members -/

section Member

variable (id : Id)

theorem memberRequest_spells : (memberRequest id).Spells ["member".toList]
    [("organizationId".toList, Json.Value.intChars id.toInt)] where
  target := by
    simp only [memberRequest, String.toList_append, toString_key, Text.pathChars, Text.formChars,
      Text.fieldChars, List.flatMap_cons, List.flatMap_nil, List.append_assoc, List.cons_append]
    rfl
  rooted := List.cons_ne_nil _ _
  plainPieces := by
    have name : ∀ c ∈ "member".toList, Text.isPlain c = true :=
      List.all_eq_true.mp (by decide)
    exact List.forall_mem_singleton.mpr name
  plainFields := by
    have name : ∀ c ∈ "organizationId".toList, Text.isPlain c = true :=
      List.all_eq_true.mp (by decide)
    exact List.forall_mem_singleton.mpr ⟨name, plain_intChars id.toInt⟩

variable (url : String) (isRoot : IsRoot url.toList)

include isRoot

theorem memberRequest_errand :
    Members.errand? ((memberRequest id).sentTo url) = some (.read id {}) := by
  have spells := memberRequest_spells id
  have pieces := Request.pieces_spelled _ _ _ spells url isRoot
  have fields := Request.fields_spelled _ _ _ spells url isRoot
  have key : organizationId? [("organizationId", String.ofList (Json.Value.intChars id.toInt))] =
      some id := by
    simp [organizationId?, field?, signed_intChars]
  have noStaging :
      staging? [("organizationId", String.ofList (Json.Value.intChars id.toInt))] = some {} := by
    simp [staging?, field?]
  unfold Members.errand?
  rw [pieces, fields]
  simp only [List.map_cons, List.map_nil, String.ofList_toList, String.ofList_nil, key, noStaging]
  rfl

end Member

end Client
end Roster.Http

/-!
A read over HTTP is the read of the backend itself. The routes ask the store for just what the
client was asked for, and what the store gives comes through its answer, be it a record or a fault:
no fault of a read is one that a client would take for another.
-/

namespace Roster

open Calendar (Moment)
open Http (IsRoot Response)
open Json (Wire)

/-! ### Chance -/

def Staging.IsCertain (staging : Staging) : Prop := staging.fault = 0 ∨ 100 ≤ staging.fault

def IsDraw (draw : Nat) : Prop := 1 ≤ draw ∧ draw ≤ 100

section Certain

variable (staging : Staging) (draw other : Nat) (id : Id)

theorem Staging.gate_certain (certain : staging.IsCertain) (drawn : IsDraw draw)
    (drawn' : IsDraw other) : staging.gate draw id = staging.gate other id := by
  have strikes : staging.strikes draw = staging.strikes other := by
    rw [Staging.strikes, Staging.strikes]
    obtain ⟨low, high⟩ := drawn
    obtain ⟨low', high'⟩ := drawn'
    rcases certain with never | always
    · rw [never]
      simp
      omega
    · have enough : 100 ≤ staging.fault.toNat := UInt32.le_iff_toNat_le.mp always
      simp
      omega
  simp only [Staging.gate, Staging.fault?, strikes]

theorem Organizations.read_certain (store : Organizations) (certain : staging.IsCertain)
    (drawn : IsDraw draw) (drawn' : IsDraw other) :
    store.read staging draw id = store.read staging other id := by
  rw [read, read, staging.gate_certain draw other id certain drawn drawn']

theorem Members.read_certain (store : Members) (certain : staging.IsCertain)
    (drawn : IsDraw draw) (drawn' : IsDraw other) :
    store.read staging draw id = store.read staging other id := by
  rw [read, read, staging.gate_certain draw other id certain drawn drawn']

end Certain

/-! ### Faults of reads -/

section Faults

variable (staging : Staging) (draw : Nat) (id : Id) (fault : Fault)

/-- What a read is refused with is the same for a client as in the service. -/
theorem Staging.gate_fault (failed : (staging.gate draw id).value = .error fault) :
    fault.acrossHttp = fault := by
  unfold Staging.gate at failed
  split at failed
  · next refusal low =>
    cases failed
    unfold Fault.checkId at low
    split at low <;> cases low
    rfl
  · unfold Staging.fault? at failed
    split at failed <;> cases failed
    rfl

theorem Organizations.read_fault (store : Organizations)
    (failed : (store.read staging draw id).value = .error fault) : fault.acrossHttp = fault := by
  rw [read] at failed
  cases gate : (staging.gate draw id).value with
  | error earlier =>
      rw [gate] at failed
      cases failed
      exact staging.gate_fault draw id fault gate
  | ok passed =>
      rw [gate] at failed
      change store.serve id = _ at failed
      rw [serve] at failed
      split at failed <;> cases failed
      rfl

theorem Members.read_fault (store : Members)
    (failed : (store.read staging draw id).value = .error fault) : fault.acrossHttp = fault := by
  rw [read] at failed
  cases gate : (staging.gate draw id).value with
  | error earlier =>
      rw [gate] at failed
      cases failed
      exact staging.gate_fault draw id fault gate
  | ok passed =>
      rw [gate] at failed
      cases failed

end Faults

/-! ### The hop -/

namespace Http.Client

variable {α : Type} [Wire α]

theorem receive_ofRead [Wire.Lossless α] (path : String) (result : Except Fault α) (time : Moment)
    (crosses : ∀ fault, result = .error fault → fault.acrossHttp = fault) :
    receive (Answer.ofResponse (Response.ofRead path result) time.text) = result := by
  cases result with
  | ok a =>
      have body : (Answer.ofResponse (Response.ofRead path (.ok a)) time.text).body =
          Wire.encode a := rfl
      have success : (Answer.ofResponse (Response.ofRead path (.ok a)) time.text).status = 200 :=
        rfl
      rw [receive, success, if_pos (by decide), body, Wire.decode_encode]
  | error fault =>
      rw [Response.ofRead, receive_ofFault path fault time]
      exact congrArg Except.error (crosses fault rfl)

theorem await_ofRead [Wire.Lossless α] (path : String) (timed : Timed (Except Fault α))
    (time : Moment) (limit : Nat) (inTime : timed.after ≤ limit)
    (crosses : ∀ fault, timed.value = .error fault → fault.acrossHttp = fault) :
    await limit ((timed.map (Response.ofRead path)).map fun response =>
      Answer.ofResponse response time.text) = timed := by
  have same := congrArg (Timed.mk timed.after) (receive_ofRead path timed.value time crosses)
  rw [await]
  exact (if_neg (Nat.not_lt.mpr inTime)).trans same

/-- No read is answered as one that could not be understood. -/
theorem ofRead_understood (path : String) (result : Except Fault α) :
    (Response.ofRead path result).status ≠ 400 := by
  cases result with
  | ok a => exact (by decide : 200 ≠ 400)
  | error fault => cases fault <;> exact Nat.ne_of_beq_eq_false rfl

/-! ### Both reads -/

/-- What a client makes of an answer that was given at a time. -/
def told {α : Type} [Wire α] (limit : Nat) (time : Moment) (answer : Timed Response) :
    Timed (Except Fault α) :=
  outcome limit (some (answer.map fun response => Answer.ofResponse response time.text))

end Http.Client

open Http.Client (baseUrl organizationRequest memberRequest told membersOf)

section Reads

variable (url : String) (isRoot : IsRoot (baseUrl url).toList) (id : Id) (draw : Nat)

include isRoot

theorem Organizations.respond_client (store : Organizations) (options : ReadOptions) :
    let request := (organizationRequest id options).sentTo (baseUrl url)
    store.respond draw request =
      (store, (store.read options.toStaging draw id).map (.ofRead request.path)) :=
  respond_read draw _ store id options.toStaging
    (Http.Client.organizationRequest_errand id options _ isRoot)

theorem Members.respond_client (store : Members) :
    let request := (memberRequest id).sentTo (baseUrl url)
    store.respond draw request = (store, (store.read {} draw id).map (.ofRead request.path)) :=
  respond_read draw _ store id {} (Http.Client.memberRequest_errand id _ isRoot)

end Reads

/-- A read over HTTP that is answered in time gives what the backend gives itself, the record or
the fault with its message, whatever the store holds and up to the ends of all ranges. The backend
is asked for just the key and the trouble that the client was called with, and never finds a request
that it cannot understand. Of members a fault is an empty list. -/
theorem reads_agree_over_http (organizations : Organizations) (members : Members) (id : Id)
    (options : ReadOptions) (certain : options.toStaging.IsCertain) (draw other : Nat)
    (drawn : IsDraw draw) (drawn' : IsDraw other) (url : String)
    (isRoot : IsRoot (baseUrl url).toList) (time : Moment) (limit : Nat) :
    (let request := (organizationRequest id options).sentTo (baseUrl url)
      let answer := organizations.respond draw request
      answer = (organizations,
        (organizations.read options.toStaging draw id).map (.ofRead request.path)) ∧
      answer.2.value.status ≠ 400 ∧
      (answer.2.after ≤ limit →
        told limit time answer.2 = organizations.read options.toStaging other id)) ∧
    (let request := (memberRequest id).sentTo (baseUrl url)
      let answer := members.respond draw request
      answer = (members, (members.read {} draw id).map (.ofRead request.path)) ∧
      answer.2.value.status ≠ 400 ∧
      (answer.2.after ≤ limit →
        membersOf (told limit time answer.2) = (members.read {} other id).map fun
          | .ok found => found
          | .error _ => [])) := by
  constructor
  · intro request answer
    have answered := organizations.respond_client url isRoot id draw options
    have same : answer = _ := answered
    rw [same]
    refine ⟨rfl, Http.Client.ofRead_understood _ _, ?_⟩
    intro inTime
    -- The backend draws on its own; what the fault depends on is then certain.
    rw [← organizations.read_certain options.toStaging draw other id certain drawn drawn']
    exact Http.Client.await_ofRead request.path _ time limit inTime fun fault failed =>
      Organizations.read_fault options.toStaging draw id fault organizations failed
  · intro request answer
    have answered := members.respond_client url isRoot id draw
    have same : answer = _ := answered
    rw [same]
    refine ⟨rfl, Http.Client.ofRead_understood _ _, ?_⟩
    intro inTime
    have never : ({} : Staging).IsCertain := .inl rfl
    have arrived : told limit time _ = members.read {} draw id :=
      Http.Client.await_ofRead request.path _ time limit inTime fun fault failed =>
        Members.read_fault {} draw id fault members failed
    rw [arrived, members.read_certain {} draw other id never drawn drawn']
    rfl

/-- A delayed read of a record with quotes in its name, by way of an address with a slash. -/
theorem quoted_name_read_over_http :
    let organizations : Organizations := {
      address := "10.0.0.1:8081"
      records := [{ id := 7, name := "a \"b\" é", country := "NO" }] }
    let members : Members := { address := "10.0.0.1:8082" }
    let options : ReadOptions := { delay := 2, fault := 0 }
    let url := "http://10.0.0.1:8081/"
    let request := (organizationRequest 7 options).sentTo (baseUrl url)
    let served : Organization :=
      { id := 7, name := "a \"b\" é", country := "NO", originAddress := "10.0.0.1:8081" }
    options.toStaging.IsCertain ∧ IsDraw 1 ∧ IsDraw 100 ∧ IsRoot (baseUrl url).toList ∧
      told 5000 default (organizations.respond 1 request).2 = ⟨2000, .ok served⟩ ∧
      membersOf (told 5000 default (members.respond 1 ((memberRequest 7).sentTo (baseUrl url))).2) =
        ⟨0, []⟩ := by
  intro organizations members options url request served
  have certain : options.toStaging.IsCertain := .inl rfl
  have low : IsDraw 1 := ⟨by decide, by decide⟩
  have high : IsDraw 100 := ⟨by decide, by decide⟩
  have base : (baseUrl url).toList =
      "http".toList ++ ':' :: '/' :: '/' :: "10.0.0.1:8081".toList := by decide +kernel
  have isRoot : IsRoot (baseUrl url).toList := by
    rw [base]
    have noMark : "http".toList.all (fun c => c ≠ ':' ∧ c ≠ '/') = true := by decide
    have noPath : "10.0.0.1:8081".toList.all (fun c => c ≠ '/' ∧ c ≠ '?' ∧ c ≠ '#') = true := by
      decide
    exact .server _ _ (fun c mem => of_decide_eq_true (List.all_eq_true.mp noMark c mem))
      (fun c mem => of_decide_eq_true (List.all_eq_true.mp noPath c mem))
  obtain ⟨⟨answer, _, read⟩, ⟨memberAnswer, _, memberRead⟩⟩ := reads_agree_over_http organizations
    members 7 options certain 1 100 low high url isRoot default 5000
  have delay : (organizations.read options.toStaging 1 7).after ≤ 5000 := by decide +kernel
  have atOnce : (members.read {} 1 7).after ≤ 5000 := by decide +kernel
  have both : organizations.read options.toStaging 100 7 = ⟨2000, .ok served⟩ := by decide +kernel
  have none : members.read {} 100 7 = ⟨0, .ok []⟩ := by decide +kernel
  rw [both] at read
  rw [none] at memberRead
  refine ⟨certain, low, high, isRoot, read ?_, memberRead ?_⟩
  · exact (congrArg (fun found => found.2.after) answer).trans_le delay
  · exact (congrArg (fun found => found.2.after) memberAnswer).trans_le atOnce

end Roster
