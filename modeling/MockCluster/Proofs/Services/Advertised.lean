import MockCluster.Proofs.Services.Agreement
import MockCluster.Proofs.Text.JsonText
import MockCluster.Proofs.Topology.Requesters

/-!
# The address in the document of a bucket

The document of a bucket says where it can be requested again: under a path that ends with the name of the bucket, and
with its identifier in the query. The name stands there as it is. When the address is taken apart again, it is cut at
the first question mark, and the path in front of it at slashes, with empty pieces dropped.

| name of the bucket | what is left of it in the path | answer |
| --- | --- | --- |
| empty, or begins with a question mark | nothing | there is no such route |
| other names with a slash | any number of segments, none of which is the name | see below |
| other names with a question mark | at best a part of the name | see below |
| all others | the name | the document |

If there is one segment left, the answer is the document of the bucket that has this name, if there is one. That is
never the document one asked for: no two buckets of a cluster have the same one (`Balanced.eq_of_bucketConfig_eq`).
-/

namespace MockCluster

section Documents

/-- The name is one of the fields. -/
theorem BucketDocument.name_eq_of_bytes_eq {d d' : BucketDocument} (h : d.toJson.bytes = d'.toJson.bytes) :
    d.name = d'.name := by
  have field : some (Json.str d.name) = some (Json.str d'.name) :=
    congrArg (Json.field? · "name") (Json.bytes_injective h)
  exact Json.str.inj (Option.some.inj field)

namespace Topology

variable {t : Topology} {node : Node} {name other : String} {config : Bytes}

/-- A node that shows a bucket shows its name. -/
theorem Balanced.exists_document (h : t.Balanced) (hn : node ∈ t.nodes)
    (hc : t.bucketConfig name node.id = .ok config) :
    ∃ d : BucketDocument, d.name = name ∧ d.toJson.bytes = config := by
  cases hb : t.bucket? name with
  | none =>
    rw [bucketConfig_of_absent_bucket (h.node?_eq hn) hb] at hc
    cases hc
  | some b =>
    obtain ⟨places, found⟩ := h.exists_documentOf hb
    rw [bucketConfig, found node hn] at hc
    exact ⟨t.documentOf b places node, (h.laidOut name b (NameMap.mem_entries_of_get? hb)).name_eq, Except.ok.inj hc⟩

/-- **No two buckets have the same document.** -/
theorem Balanced.eq_of_bucketConfig_eq (h : t.Balanced) (hn : node ∈ t.nodes)
    (hc : t.bucketConfig name node.id = .ok config) (hc' : t.bucketConfig other node.id = .ok config) :
    name = other := by
  obtain ⟨d, rfl, bytes⟩ := h.exists_document hn hc
  obtain ⟨d', rfl, bytes'⟩ := h.exists_document hn hc'
  exact BucketDocument.name_eq_of_bytes_eq (bytes.trans bytes'.symm)

end Topology

end Documents

section Uuid

theorem Bytes.mem_hexDigits {width value : Nat} {c : Char} (h : c ∈ hexDigits width value) :
    c ∈ (List.range 16).map hexDigit := by
  induction width generalizing value with
  | zero => cases h
  | succ width ih =>
    obtain h | h := List.mem_append.1 h
    · exact ih h
    · obtain rfl := List.mem_singleton.1 h
      exact List.mem_map_of_mem (List.mem_range.2 (Nat.mod_lt _ (by decide)))

/-- An identifier can stand in a query as it is. -/
theorem Bucket.ampersand_not_mem_uuidOf (name : String) : '&' ∉ (uuidOf name).toList := by
  have digit : '&' ∉ (List.range 16).map Bytes.hexDigit := by decide
  intro h
  simp only [uuidOf, String.toList_ofList, List.mem_append] at h
  exact digit (h.elim Bytes.mem_hexDigits Bytes.mem_hexDigits)

end Uuid

namespace Http

open MockCluster.Script (Memory)

section Targets

/-- A text up to the first question mark. -/
def beforeQuery (text : String) : String := String.ofList (text.toList.takeWhile (· ≠ '?'))

theorem Request.path_create_eq (method target : String) : (create method target).path = beforeQuery target :=
  congrArg String.ofList (fst_cutAt '?' target.toList)

theorem beforeQuery_append {front : String} (h : '?' ∉ front.toList) (rest : String) :
    beforeQuery (front ++ rest) = front ++ beforeQuery rest := by
  have kept : ∀ c ∈ front.toList, decide (c ≠ '?') = true := fun c hc => decide_eq_true fun he => h (he ▸ hc)
  apply String.toList_injective
  simp only [beforeQuery, String.toList_append, String.toList_ofList]
  exact List.takeWhile_append_of_pos kept

theorem beforeQuery_append_question (text rest : String) : beforeQuery (text ++ "?" ++ rest) = beforeQuery text := by
  have cut (l more : List Char) : (l ++ '?' :: more).takeWhile (· ≠ '?') = l.takeWhile (· ≠ '?') := by
    induction l with
    | nil => simp
    | cons c l ih => simp only [List.cons_append, List.takeWhile_cons, ih]
  have split : (text ++ "?" ++ rest).toList = text.toList ++ '?' :: rest.toList := by simp
  rw [beforeQuery, split, cut, beforeQuery]

theorem beforeQuery_of_not_mem {text : String} (h : '?' ∉ text.toList) : beforeQuery text = text :=
  (Request.path_create_eq "GET" text).symm.trans (Request.path_create h "GET")

theorem question_not_mem_beforeQuery (text : String) : '?' ∉ (beforeQuery text).toList := by
  intro h
  rw [beforeQuery, String.toList_ofList] at h
  simpa using List.mem_takeWhile_imp h

variable (d : BucketDocument)

theorem uri_eq : d.uri = "/pools/default/buckets" ++ "/" ++ d.name ++ "?" ++ ("bucket_uuid=" ++ d.uuid) := by
  have front : "/pools/default/buckets/" = "/pools/default/buckets" ++ "/" := by decide +kernel
  have back : "?bucket_uuid=" = "?" ++ "bucket_uuid=" := by decide +kernel
  unfold BucketDocument.uri
  rw [front, back]
  simp only [String.append_assoc, toString]

theorem Request.path_create_uri (method : String) :
    (create method d.uri).path = "/pools/default/buckets" ++ "/" ++ beforeQuery d.name := by
  rw [path_create_eq, uri_eq, beforeQuery_append_question, beforeQuery_append (by decide +kernel)]

/-- The segments that the address of a document has. -/
theorem segments_uri (method : String) : pathSegments (Request.create method d.uri).path =
    "pools" :: "default" :: "buckets" :: pathSegments (beforeQuery d.name) := by
  have front : pathSegments "/pools/default/buckets" = ["pools", "default", "buckets"] := by decide +kernel
  rw [Request.path_create_uri, pathSegments_append, front]
  rfl

/-- The identifier can be read from the address if the name has no question mark. -/
theorem param?_uri (question : '?' ∉ d.name.toList) (ampersand : '&' ∉ d.uuid.toList) (method : String) :
    (Request.create method d.uri).param? "bucket_uuid" = some d.uuid := by
  have front : '?' ∉ ("/pools/default/buckets" ++ "/" ++ d.name).toList := by simpa using question
  have back : "bucket_uuid=" = "bucket_uuid" ++ "=" := by decide +kernel
  have query : (Request.create method d.uri).query = some (Parameter.joined [⟨"bucket_uuid", some d.uuid⟩]) := by
    rw [uri_eq, Request.create_question front, back]
    rfl
  have whole : ∀ p ∈ [Parameter.mk "bucket_uuid" (some d.uuid)], p.Whole := by
    intro p hp
    obtain rfl := List.mem_singleton.1 hp
    have equals : '=' ∉ "bucket_uuid".toList := by decide +kernel
    have plain : '&' ∉ "bucket_uuid".toList := by decide +kernel
    exact ⟨equals, plain, by simpa using ampersand⟩
  exact (Request.param?_of_query query (List.cons_ne_nil _ _) whole _).trans rfl

end Targets

section Answers

variable {w : World Handler Memory} {r : Request} {segments : List String}

/-- There is no route for a path of buckets that does not name exactly one. -/
theorem Builtin.found_eq_nil (several : segments.length ≠ 1)
    (path : pathSegments r.path = "pools" :: "default" :: "buckets" :: segments) : found r = [] := by
  cases segments with
  | nil =>
    simp [found, all, rule, Rule.match?, PathPattern.match?, PathPattern.matchSegments, path, segments_pools,
      segments_nodeServices, segments_b, segments_buckets]
  | cons first rest =>
    cases rest with
    | nil => exact absurd rfl several
    | cons =>
      simp [found, all, rule, Rule.match?, PathPattern.match?, PathPattern.matchSegments, path, segments_pools,
        segments_nodeServices, segments_b, segments_buckets]

/-- Without a route nothing answers. -/
theorem serve_of_found_nil (offers : w.OffersRoutes) (short : r.body.length ≤ maxBody)
    (hf : Builtin.found r = []) (node : NodeId) : (serve Handler.behaviour node w r).1 = .create 501 := by
  have candidates := offers.candidates r
  rw [hf] at candidates
  have empty : w.candidates r = [] := List.map_eq_nil_iff.1 candidates
  have dispatched : dispatch Handler.behaviour node w r = .returned w none := by
    rw [dispatch, empty]
    rfl
  simp only [serve, if_neg (Nat.not_lt_of_le short), dispatched, sent]

end Answers

/-- What a node answers to a GET for an address. -/
def World.answerTo (w : World Handler Memory) (node : NodeId) (uri : String) : Response :=
  (serve Handler.behaviour node w (.create "GET" uri)).1

section Address

variable {w : World Handler Memory} {t : Topology} {node : Node} {name : String} {b : Bucket} {d : BucketDocument}

/-- If one segment is left of the name, the address leads to the bucket that it names. -/
theorem answerTo_uri_of_eq_singleton (offers : w.OffersRoutes) {segment : String}
    (left : pathSegments (beforeQuery d.name) = [segment]) (node : NodeId) :
    w.answerTo node d.uri = Builtin.render (w.topology.bucketConfig segment node) := by
  have gets := gets_create d.uri
  have path := segments_uri d "GET"
  rw [left] at path
  refine serve_of_found offers gets.short (Builtin.found_bucket (.inr rfl) gets.method path) ?_
  simp [Builtin.answer, NameMap.get?_insert]

/-- Otherwise it leads nowhere. -/
theorem answerTo_uri_of_length_ne_one (offers : w.OffersRoutes)
    (left : (pathSegments (beforeQuery d.name)).length ≠ 1) (node : NodeId) : w.answerTo node d.uri = .create 501 :=
  serve_of_found_nil offers (gets_create d.uri).short (Builtin.found_eq_nil left (segments_uri d "GET")) node

/-- Only the whole name can be left as the only segment of itself. -/
theorem pathSegments_beforeQuery_eq_iff :
    pathSegments (beforeQuery name) = [name] ↔ name ≠ "" ∧ '/' ∉ name.toList ∧ '?' ∉ name.toList := by
  constructor
  · intro h
    obtain ⟨filled, slash, kept⟩ := mem_pathSegments (h ▸ List.mem_singleton_self name)
    exact ⟨filled, slash, fun question => question_not_mem_beforeQuery name (kept question)⟩
  · rintro ⟨filled, slash, question⟩
    rw [beforeQuery_of_not_mem question, pathSegments_of_not_mem filled slash]

/-- The document that an address was taken from is found there if and only if the name is left of itself. -/
theorem answerTo_uri_eq_document_iff (offers : w.OffersRoutes) (balanced : w.topology.Balanced)
    (hn : node ∈ w.topology.nodes) (found : w.topology.bucketConfig d.name node.id = .ok d.toJson.bytes) :
    (w.answerTo node.id d.uri).status = 200 ∧ (w.answerTo node.id d.uri).body = d.toJson.bytes ↔
      pathSegments (beforeQuery d.name) = [d.name] := by
  by_cases one : (pathSegments (beforeQuery d.name)).length = 1
  · obtain ⟨segment, left⟩ := List.length_eq_one_iff.1 one
    rw [answerTo_uri_of_eq_singleton offers left, left, List.singleton_inj]
    constructor
    · rintro ⟨status, body⟩
      cases hc : w.topology.bucketConfig segment node.id with
      | error fault =>
        rw [hc, Builtin.status_render_error] at status
        split at status <;> cases status
      | ok config =>
        rw [hc] at body
        obtain rfl : config = d.toJson.bytes := body
        exact balanced.eq_of_bucketConfig_eq hn hc found
    · rintro rfl
      rw [found]
      exact ⟨rfl, rfl⟩
  · rw [answerTo_uri_of_length_ne_one offers one]
    exact ⟨fun h => absurd h.1 (by decide), fun h => absurd (congrArg List.length h) one⟩

/-- **The address that a document gives.** Whatever was done to a cluster, any of its nodes has a document of any of its
buckets, and the document gives an address. Let the built-in routes be all that is registered. A GET for this address at
the same node is answered with the same document if and only if the name of the bucket is not empty and has neither a
slash nor a question mark. Then the query of the address gives the identifier of the bucket too. -/
theorem uri_leads_back_iff {ms : List Topology.Mutation} {past : List Topology}
    (h : Topology.History ms (t :: past)) (hb : t.bucket? name = some b) (hn : node ∈ t.nodes)
    (offers : w.OffersRoutes) (current : w.topology = t) :
    ∃ (d : BucketDocument) (uri : String),
      t.bucketDocument name node.id = .ok d ∧ t.bucketConfig name node.id = .ok d.toJson.bytes ∧
      d.toJson.field? "uri" = some (.str uri) ∧
      ((w.answerTo node.id uri).status = 200 ∧ (w.answerTo node.id uri).body = d.toJson.bytes ↔
        name ≠ "" ∧ '/' ∉ name.toList ∧ '?' ∉ name.toList) ∧
      ('?' ∉ name.toList → (Request.create "GET" uri).param? "bucket_uuid" = some b.uuid) := by
  subst current
  have balanced : w.topology.Balanced := h.balanced _ List.mem_cons_self
  have laidOut : b.LaidOut w.topology.kvNodeIds name := balanced.laidOut name b (NameMap.mem_entries_of_get? hb)
  obtain ⟨places, document⟩ := balanced.exists_documentOf hb
  have config : w.topology.bucketConfig name node.id = .ok (w.topology.documentOf b places node).toJson.bytes := by
    rw [Topology.bucketConfig, document node hn]
    rfl
  have named : (w.topology.documentOf b places node).name = name := laidOut.name_eq
  refine ⟨w.topology.documentOf b places node, _, document node hn, config, rfl, ?_, fun question => ?_⟩
  · rw [answerTo_uri_eq_document_iff offers balanced hn (named.symm ▸ config), named, pathSegments_beforeQuery_eq_iff]
  · refine param?_uri _ (named.symm ▸ question) ?_ "GET"
    have uuid : (w.topology.documentOf b places node).uuid = Bucket.uuidOf name := laidOut.uuid_eq
    rw [uuid]
    exact Bucket.ampersand_not_mem_uuidOf name

/-- The address of the first bucket leads back to its document. The one of the second bucket is cut in the middle of the
name, and leads to the document of the first bucket too. -/
theorem uri_leads_back_iff_question :
    let t := Topology.mutateAll
      [.addNode "a" [.kv], .addBucket ⟨"x", 0, 1, none⟩, .addBucket ⟨"x?y", 0, 1, none⟩] .initial
    let w : World Handler Memory := ⟨.empty, Builtin.registerAll .builtin .empty, t, .empty⟩
    ∃ (b : Bucket) (d d' : BucketDocument) (uri uri' : String), t.bucket? "x" = some b ∧
      t.bucketDocument "x" 0 = .ok d ∧ d.toJson.field? "uri" = some (.str uri) ∧
      t.bucketDocument "x?y" 0 = .ok d' ∧ d'.toJson.field? "uri" = some (.str uri') ∧
      (w.answerTo 0 uri).status = 200 ∧ (w.answerTo 0 uri).body = d.toJson.bytes ∧
      (Request.create "GET" uri).param? "bucket_uuid" = some b.uuid ∧
      ¬((w.answerTo 0 uri').status = 200 ∧ (w.answerTo 0 uri').body = d'.toJson.bytes) ∧
      w.answerTo 0 uri' = w.answerTo 0 uri := by
  intro t w
  have history : Topology.History _ _ :=
    .mutate (.mutate (.mutate .start (.addNode "a" [.kv]) nofun) (.addBucket ⟨"x", 0, 1, none⟩) nofun)
      (.addBucket ⟨"x?y", 0, 1, none⟩) nofun
  have offers : w.OffersRoutes := offersRoutes_registerAll t .empty
  have hn : t.nodes[0] ∈ t.nodes := List.getElem_mem _
  have hb : t.bucket? "x" = some ((t.bucket? "x").get (by decide)) := (Option.some_get _).symm
  have hb' : t.bucket? "x?y" = some ((t.bucket? "x?y").get (by decide)) := (Option.some_get _).symm
  obtain ⟨d, uri, document, -, address, back, uuid⟩ := uri_leads_back_iff history hb hn offers rfl
  obtain ⟨d', uri', document', -, address', back', -⟩ := uri_leads_back_iff history hb' hn offers rfl
  have found := back.2 (by decide +kernel)
  refine ⟨_, d, d', uri, uri', hb, document, address, document', address', found.1, found.2, uuid (by decide +kernel),
    fun h => absurd (back'.1 h).2.2 (by decide +kernel), ?_⟩
  have named : d.name = "x" := by
    obtain rfl := Except.ok.inj document
    rfl
  have named' : d'.name = "x?y" := by
    obtain rfl := Except.ok.inj document'
    rfl
  obtain rfl : d.uri = uri := Json.str.inj (Option.some.inj address)
  obtain rfl : d'.uri = uri' := Json.str.inj (Option.some.inj address')
  have left : pathSegments (beforeQuery d.name) = ["x"] := by
    rw [named]
    decide +kernel
  have left' : pathSegments (beforeQuery d'.name) = ["x"] := by
    rw [named']
    decide +kernel
  rw [answerTo_uri_of_eq_singleton offers left, answerTo_uri_of_eq_singleton offers left']

end Address

end Http

end MockCluster
