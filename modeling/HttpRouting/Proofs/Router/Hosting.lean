import HttpRouting.Proofs.Http.Environ
import HttpRouting.Proofs.Http.Splitting
import HttpRouting.Proofs.Router.Reachability

/-!
# Answers to a server

An environment without headers and input makes the request that its path and
query make as one target, wherever the path is divided.  So a router answers a
server as it answers that request, and what is sent differs from the answer in
the length of the body only, which is added unless the answer has it already.
Only a body that has no length, and no header that gives one, is not sent.
-/

namespace HttpRouting

open Http (Environ parseQuery)

/-! ## Targets -/

theorem Request.ofTarget_append {path : String} (h : '?' ∉ path.toList)
    (query method : String) (headers own : Pairs String) (body : List UInt8) :
    ofTarget (path ++ "?" ++ query) method headers own body =
      ofPath path method headers ((parseQuery query).merge own) body := by
  rw [ofTarget, Http.splitQuery_append h]

/-! ## Environments without headers -/

namespace Http.Environ

/-- An environment with no header and no input announced. -/
structure IsBare (e : Environ) : Prop where
  noField : ∀ name ∈ e.bindings.keys, ¬ headerStem.toList <+: name.toList
  noContentType : "CONTENT_TYPE" ∉ e.bindings.keys
  noContentLength : "CONTENT_LENGTH" ∉ e.bindings.keys

namespace IsBare

variable {e : Environ} (h : e.IsBare)

include h

theorem headers_eq : e.headers = ∅ := by
  have hnone : e.bindings.entries.filterMap header? = [] := by
    refine List.filterMap_eq_nil_iff.mpr fun entry hentry => ?_
    have hkey : entry.1 ∈ e.bindings.keys := List.mem_map_of_mem hentry
    cases hheader : header? entry with
    | none => rfl
    | some header =>
        obtain ⟨key, hgives, -⟩ := header?_eq_some_iff.mp hheader
        cases hgives with
        | field => exact absurd (by simp) (h.noField _ hkey)
        | content hcontent =>
            rcases eq_or_eq_of_isContentVariable hcontent with rfl | rfl
            · exact absurd hkey h.noContentType
            · exact absurd hkey h.noContentLength
  rw [headers, hnone]
  rfl

theorem body_eq : e.body = .ok [] := by
  have hnone : e.bindings.find? "CONTENT_LENGTH" = none :=
    Pairs.valueOf?_eq_none fun entry hentry heq =>
      h.noContentLength (heq ▸ List.mem_map_of_mem hentry)
  rw [body, contentLength, hnone]
  rfl

theorem request_eq (hpath : '?' ∉ e.path.toList) :
    e.request = .ok (.ofTarget (e.path ++ "?" ++ e.get "QUERY_STRING" "")
      (e.get "REQUEST_METHOD" "GET") ∅ ∅ []) := by
  rw [Environ.request_eq, h.body_eq, h.headers_eq, Request.ofTarget_append hpath]
  rfl

end IsBare

end Http.Environ

/-! ## Responses that are sent -/

namespace Response

variable {r : Response}

/-- A header of the response gives the length of its body, in any capitalisation. -/
def GivesLength (r : Response) : Prop :=
  ∃ name ∈ r.headers.keys, Text.lower name = "content-length"

/-- The response as it stands, with further headers behind its own. -/
def sentWith (r : Response) (more : List (String × Value)) : Sent where
  statusLine := r.statusLine
  headers := ⟨r.headers.entries ++ more⟩
  body := r.body

theorem lower_contentLength : Text.lower "Content-Length" = "content-length" := by decide +kernel

theorem findHeader?_contentLength (h : ¬ r.GivesLength) :
    Http.findHeader? r.headers "Content-Length" = none := by
  refine Http.findHeader?_eq_none_iff.mpr fun entry hentry hlower => ?_
  exact h ⟨entry.1, List.mem_map_of_mem hentry, hlower.trans lower_contentLength⟩

theorem send_of_givesLength (h : r.GivesLength) : r.send = .ok (r.sentWith []) := by
  have hsome : (Http.findHeader? r.headers "Content-Length").isSome = true := by
    rw [Option.isSome_iff_ne_none, ne_eq, Http.findHeader?_eq_none_iff]
    obtain ⟨name, hname, hlower⟩ := h
    obtain ⟨entry, hentry, rfl⟩ := List.mem_map.mp hname
    exact fun hnone => hnone entry hentry (hlower.trans lower_contentLength.symm)
  rw [send, sentHeaders, if_pos hsome, sentWith, List.append_nil]
  rfl

theorem send_of_length {n : Nat} (h : ¬ r.GivesLength) (hlength : r.body.length? = some n) :
    r.send = .ok (r.sentWith [("Content-Length", .text (toString n))]) := by
  have hentries : r.headers.insert "Content-Length" (.text (toString n)) =
      ⟨r.headers.entries ++ [("Content-Length", .text (toString n))]⟩ := by
    rw [Pairs.insert, Pairs.insertEntry_of_forall_ne fun entry hentry heq => ?_]
    exact h ⟨entry.1, List.mem_map_of_mem hentry, heq ▸ lower_contentLength⟩
  rw [send, sentHeaders, findHeader?_contentLength h, hlength, sentWith, ← hentries]
  rfl

theorem send_of_unsized (h : ¬ r.GivesLength) (hlength : r.body.length? = none) :
    r.send = .error ⟨r.body.kindName⟩ := by
  rw [send, sentHeaders, findHeader?_contentLength h, hlength]
  rfl

end Response

/-! ## Serving -/

namespace Router

theorem respond_of_find_eq_none {r : Router} {request : Request}
    (h : (r.find request.method request.path).result = .ok none) :
    (r.respond request).result = .ok r.build.router.notFound := by
  rw [respond, Reply.andThen, h, find_router]
  rfl

theorem not_givesLength_notFound (r : Router) : ¬ r.notFound.GivesLength := by
  rintro ⟨name, hname, hlower⟩
  obtain rfl : name = "Content-Type" := List.mem_singleton.mp hname
  exact absurd hlower (by decide +kernel)

theorem serve_eq {e : Environ} {request : Request} (h : e.request = .ok request) (r : Router) :
    r.serve e =
      { r.respond request with
        result := (r.respond request).result.bind fun response =>
          response.send.mapError .unsizedBody } := by
  rw [serve_of_request h, Reply.andThen_answer]

theorem serve_result {e : Environ} {request : Request} {r : Router} {response : Response}
    (h : e.request = .ok request) (hresponse : (r.respond request).result = .ok response) :
    (r.serve e).result = response.send.mapError .unsizedBody := by
  rw [serve_eq h, hresponse]
  rfl

/--
An environment without headers and input makes the same request as its path,
a question mark and its query, if there is no question mark in the path.  Every
router answers the server as it answers this request, and what is sent is the
answer, with the length of its body behind its headers unless one of them gives
a length already.  A body without a length is sent under such a header only.
-/
theorem serve_follows_respond {e : Environ} (h : e.IsBare) {script info path query method : String}
    (hscript : e.get "SCRIPT_NAME" "" = script) (hinfo : e.get "PATH_INFO" "" = info)
    (hsplit : script ++ info = path) (hpath : '?' ∉ path.toList)
    (hquery : e.get "QUERY_STRING" "" = query) (hmethod : e.get "REQUEST_METHOD" "GET" = method) :
    let request := Request.ofTarget (path ++ "?" ++ query) method ∅ ∅ []
    e.request = .ok request ∧ ∀ r : Router,
      (r.serve e).router = (r.respond request).router ∧
      (r.serve e).warnings = (r.respond request).warnings ∧
      (r.serve e).call = (r.respond request).call ∧
      (∀ error, (r.respond request).result = .error error →
        (r.serve e).result = .error error) ∧
      ∀ response, (r.respond request).result = .ok response →
        (response.GivesLength → (r.serve e).result = .ok (response.sentWith [])) ∧
        (¬ response.GivesLength →
          (∀ n, response.body.length? = some n → (r.serve e).result =
            .ok (response.sentWith [("Content-Length", .text (toString n))])) ∧
          (response.body.length? = none →
            (r.serve e).result = .error (.unsizedBody ⟨response.body.kindName⟩))) := by
  intro request
  have hwhole : e.path = path := by rw [Environ.path, hscript, hinfo, hsplit]
  have hrequest : e.request = .ok request := by
    rw [h.request_eq (hwhole ▸ hpath), hwhole, hquery, hmethod]
  refine ⟨hrequest, fun r => ⟨?_, ?_, ?_, fun error herror => ?_, fun response hresponse =>
    ⟨fun hgiven => ?_, fun hgiven => ⟨fun n hlength => ?_, fun hlength => ?_⟩⟩⟩⟩
  · rw [serve_eq hrequest]
  · rw [serve_eq hrequest]
  · rw [serve_eq hrequest]
  · rw [serve_eq hrequest, herror]
    rfl
  · rw [serve_result hrequest hresponse, Response.send_of_givesLength hgiven]
    rfl
  · rw [serve_result hrequest hresponse, Response.send_of_length hgiven hlength]
    rfl
  · rw [serve_result hrequest hresponse, Response.send_of_unsized hgiven hlength]
    rfl

/-- Where the path is divided makes no difference, nor do blank and repeated fields. -/
theorem serve_follows_respond_divided :
    let e : Environ := ⟨⟨[("QUERY_STRING", "a=1&&b=%zz&a=?&c"), ("SCRIPT_NAME", "/bl"),
      ("PATH_INFO", "og/posts"), ("REQUEST_METHOD", "get")]⟩, none⟩
    let request := Request.ofTarget "/blog/posts?a=1&&b=%zz&a=?&c" "get" ∅ ∅ []
    e.IsBare ∧ e.request = .ok request ∧
      ∃ response, (fresh.respond request).result = .ok response ∧
        (fresh.serve e).result =
          .ok (response.sentWith [("Content-Length", .text "18")]) := by
  intro e request
  have hbare : e.IsBare := ⟨by decide, by decide, by decide⟩
  have hscript : e.get "SCRIPT_NAME" "" = "/bl" := by decide
  have hinfo : e.get "PATH_INFO" "" = "og/posts" := by decide
  have hsplit : "/bl" ++ "og/posts" = "/blog/posts" := by decide
  have hquery : e.get "QUERY_STRING" "" = "a=1&&b=%zz&a=?&c" := by decide
  have hmethod : e.get "REQUEST_METHOD" "GET" = "get" := by decide
  obtain ⟨hrequest, hserve⟩ :=
    serve_follows_respond hbare hscript hinfo hsplit (by decide) hquery hmethod
  have hanswer : (fresh.respond request).result = .ok fresh.build.router.notFound :=
    respond_of_find_eq_none (by decide +kernel)
  obtain ⟨-, -, -, -, hanswers⟩ := hserve fresh
  have hlength := ((hanswers _ hanswer).2 (not_givesLength_notFound _)).1 18 (by decide +kernel)
  exact ⟨hbare, hrequest, _, hanswer, hlength⟩

theorem unsized_body_is_not_sent :
    ¬ ∀ (settings : Settings) (r : Router), make settings ∅ none = .ok r →
      ∀ e : Environ, e.IsBare → ∀ request, e.request = .ok request →
        ∀ response, (r.respond request).result = .ok response →
          ∃ more, (r.serve e).result = .ok (response.sentWith more) := by
  intro hclaim
  let settings : Settings := { notFoundBody := .int 404 }
  let r : Router := { fresh with settings := settings }
  let e : Environ := ⟨⟨[("PATH_INFO", "/b")]⟩, none⟩
  have hbare : e.IsBare := ⟨by decide, by decide, by decide⟩
  have hrequest : e.request = .ok (.ofTarget "/b?" "GET" ∅ ∅ []) := hbare.request_eq (by decide)
  have hanswer : (r.respond (.ofTarget "/b?" "GET" ∅ ∅ [])).result = .ok r.build.router.notFound :=
    respond_of_find_eq_none (by decide +kernel)
  obtain ⟨more, hsent⟩ := hclaim settings r rfl e hbare _ hrequest _ hanswer
  rw [serve_result hrequest hanswer, Response.send_of_unsized (not_givesLength_notFound _) rfl] at hsent
  simp [Except.mapError] at hsent

end Router

end HttpRouting
