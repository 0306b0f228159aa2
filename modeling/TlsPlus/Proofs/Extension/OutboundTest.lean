/-
What the outbound test shows.

The test sends a request by a profile of its own choice, and what it is for is the JA4
that the other side has seen.  Between the click and the box lie a thread, the loading
of the library, the checks of the call, the pool of clients, up to three attempts and
the queue of updates, and between two clicks all of it may still be under way.
`outbound_test_shown` goes the whole way: the response in the box was got for the last
click, from what was sent by clients with the emulation of the profile chosen then, and
a JA4 in it is what the diagnostics endpoint answered to such a request.
-/
import TlsPlus.Proofs.Extension.Answers
import TlsPlus.Proofs.Extension.Offered
import TlsPlus.Proofs.Proxy.Buffered
import TlsPlus.Proofs.Proxy.Diagnostics

namespace TlsPlus

open Text

variable {Profile Platform Emulation : Type} {u : WreqUtil Profile Platform Emulation}
  {paths : LoaderPaths} {s : Tab} {events : List TabEvent}

/-! ### What the call comes to -/

/-- The core answers with what forwarding comes to, its clients from the shared pool; or the call
throws. -/
def CallsForward (u : WreqUtil Profile Platform Emulation) (native : NativeLibrary) : Prop :=
  ∀ request response, native.proxySendRequest request = .ok response →
    ∃ (runtime : Except Str Unit) (fw : ForwardWorld (WreqClient Emulation)),
      (∀ name client, fw.getWreqClient name = .ok client → FromPool u name client) ∧
      response = (proxySendRequest runtime fw request).response

/-- The request of the outbound test. -/
def testRequest (id method url profile : Str) : ProxyRequest where
  id := id
  method := method
  url := url
  headers := []
  body := []
  profile := profile
  timeoutSecs := 30

/-- What forwarding the test's request comes to: nothing is sent, and the response says why; or up
to three requests are sent, without headers or body, by a client of the shared pool with the
emulation of the profile, and the response is what the last of them met.  A JA4 in it is what the
trusted endpoint answered to that one. -/
inductive TestForwarded (u : WreqUtil Profile Platform Emulation)
    (fw : ForwardWorld (WreqClient Emulation)) (request : ProxyRequest)
    (answered : Answered (WreqClient Emulation)) : Prop
  | refused (error : Str) (hsent : answered.sent = [])
      (hresponse : answered.response = failedResponse request.id error)
  | sent (client : WreqClient Emulation) (uri : Uri) (method : Method) (last : Nat)
      (huri : fw.parseUri request.url = .ok uri)
      (hmethod : fw.parseMethod request.method = .ok method)
      (hpool : FromPool u request.profile client)
      (hclient : client.emulation = namedEmulation u request.profile) (hlast : last ≤ 2)
      (hsent : answered.sent = List.replicate (last + 1) ⟨client, method, uri, .empty, []⟩)
      (hresponse : answered.response = request.report fw uri last)
      (hja4 : ∀ v, answered.response.ja4 = some v ↔ CarriesJa4 fw request answered.response v)

theorem testForwarded_of_pool (hu : u.Lawful) (runtime : Except Str Unit)
    {fw : ForwardWorld (WreqClient Emulation)}
    (hpool : ∀ name client, fw.getWreqClient name = .ok client → FromPool u name client)
    (id method url profile : Str) :
    let request := testRequest id method url profile
    TestForwarded u fw request (proxySendRequest runtime fw request) := by
  intro request
  rcases proxySendRequest_cases runtime fw request with
    ⟨error, hfailed⟩ | ⟨client, uri, method, hpasses⟩
  · rw [hfailed]
    exact .refused error rfl rfl
  · obtain ⟨last, hlast⟩ := exists_last fw (maxRetries method request.body)
    have hbudget : last ≤ maxRetries method request.body := hlast.2 (Or.inl rfl)
    rw [proxySendRequest_of_passes hpasses hlast]
    have hclient := hpool _ _ hpasses.client
    exact .sent client uri method last hpasses.uri hpasses.method hclient
      (emulation_of_fromPool hu hclient)
      (le_trans hbudget (maxRetries_le method request.body)) rfl rfl (report_ja4 hpasses.uri last)

/-! ### What is shown -/

/-- A response that is shown for a click: the library could not be loaded, and the core was not
called; or the call threw, and of what it had sent by then nothing is known; or it is what
forwarding came to. -/
inductive ShowsTest (u : WreqUtil Profile Platform Emulation) (paths : LoaderPaths) (w : CallWorld)
    (loader : NativeLoader) (request : ProxyRequest) (response : ProxyResponse) : Prop
  | unloaded (e : Throwable) (hfailed : (ensureLoaded paths w.load loader).result = .error e)
      (hresponse : response = failedResponse [] ("proxySendRequest failed: " ++ e.text))
  | threw (e : Throwable) (hloaded : (ensureLoaded paths w.load loader).result = .ok ())
      (hthrew : w.native.proxySendRequest request = .error e)
      (hresponse : response = failedResponse [] ("proxySendRequest failed: " ++ e.text))
  | forwarded (hloaded : (ensureLoaded paths w.load loader).result = .ok ())
      (runtime : Except Str Unit) (fw : ForwardWorld (WreqClient Emulation))
      (hresponse : response = (proxySendRequest runtime fw request).response)
      (hforwarded : TestForwarded u fw request (proxySendRequest runtime fw request))

theorem showsTest_of_call (hu : u.Lawful) {w : CallWorld} (hnative : CallsForward u w.native)
    (core : CoreState) (method url profile : Str) :
    ShowsTest u paths w core.loader (testRequest w.randomUuid method url profile)
      (TlsPlusCore.sendProxyRequest paths w core method url [] [] profile 30).1 := by
  unfold TlsPlusCore.sendProxyRequest
  rcases value_withNativeServer paths w core
      (fun server =>
        (w.native.proxySendRequest (testRequest w.randomUuid method url profile), server))
      (fun e => failedResponse [] ("proxySendRequest failed: " ++ e.text)) with
    ⟨e, hfailed, hvalue⟩ | ⟨hloaded, ⟨e, hthrew, hvalue⟩ | ⟨response, hcalled, hvalue⟩⟩
  · exact .unloaded e hfailed hvalue
  · exact .threw e hloaded hthrew hvalue
  · obtain ⟨runtime, fw, hpool, hresponse⟩ := hnative _ _ hcalled
    exact .forwarded hloaded runtime fw (hvalue.trans hresponse)
      (testForwarded_of_pool hu runtime hpool _ _ _ _)

variable {p : Preferences} {loader : NativeLoader} {output : Str}

/-- **What the outbound test shows is what the profile of the click was answered.**  However the
tab was used, a response in the box was got after the last *Send Request* click, with the method,
the trimmed URL and the profile of that click.  It says that the core could not be called or
refused the request, and then nothing was sent; or that the call threw; or it is what the last of
up to three requests met, all sent without headers or body by a client of the shared pool with the
emulation that the profile's name stands for, and then it has a JA4 exactly if the trusted endpoint
answered one. -/
theorem outbound_test_shown (hu : u.Lawful)
    (hnative : ∀ thread w, .worker thread w ∈ events → CallsForward u w.native)
    (hrun : (tabMachine paths).run (.init p loader output) events = some s)
    {response : ProxyResponse} (hshown : s.proxyTestResult = .answered response) :
    ∃ before thread w after shared method url profile,
      events = before ++ .worker thread w :: after ∧
      ((tabMachine paths).run (.init p loader output) before).map Tab.shared = some shared ∧
      lastAsked .response before = some (.requesting method url profile) ∧
      (∀ e ∈ after, TabEvent.asks .response e = none) ∧
      ShowsTest u paths w shared.core.loader (testRequest w.randomUuid method url profile)
        response := by
  have hshows := (current_of_run hrun).2
  rw [hshown] at hshows
  obtain ⟨before, thread, w, after, v, block, hevents, hbefore, -, hlast, hafter, hadvance⟩ :=
    hshows
  obtain ⟨event, -, hasks⟩ := List.mem_filterMap.mp (List.mem_of_getLast? hlast)
  cases event with
  | sendProxyRequest method text profile =>
      obtain rfl := Option.some.inj hasks
      have hresponse : _ = response := Update.response.inj (Worker.posting.inj hadvance)
      refine ⟨before, thread, w, after, v.shared, _, _, _, hevents, ?_, hlast, hafter,
        hresponse ▸ showsTest_of_call hu (hnative thread w (by simp [hevents])) _ _ _ _⟩
      rw [hbefore]
      rfl
  | _ => exact absurd hasks (by simp [TabEvent.asks])

/-! ### A test -/

/-- The diagnostics endpoint answers, in a world whose pool has one client. -/
def diagnosticWorld : ForwardWorld (WreqClient (SampleProfile × Option SamplePlatform)) where
  getWreqClient := pooledWorld.getWreqClient
  parseUri target :=
    if target = ("https://tls.peet.ws/api/all" : Str) then
      .ok ⟨some "https", some "tls.peet.ws", some "tls.peet.ws", none, "/api/all", none⟩
    else .error "invalid uri character"
  parseMethod method := if method = ("GET" : Str) then .ok .get else .error "invalid HTTP method"
  displayStatus status := decimal status.code
  decodeDiagnostic _ := some "t13d1516h2_8daaf6152771_02713d6af862"
  attempt _ := .response ⟨.ok, .empty, .ok []⟩

def diagnosticCall : CallWorld :=
  { sampleCall with native := { sampleLibrary with
      proxySendRequest request :=
        .ok (proxySendRequest (.ok ()) diagnosticWorld request).response } }

theorem diagnosticCall_forwards : CallsForward sampleUtil diagnosticCall.native := by
  intro request response hcalled
  exact ⟨.ok (), diagnosticWorld, pooledWorld_pools, (Except.ok.inj hcalled).symm⟩

def clickedTest : List TabEvent :=
  [.sendProxyRequest none " https://tls.peet.ws/api/all" (some "android_chrome"),
   .worker 1 diagnosticCall, .worker 1 diagnosticCall, .update]

def diagnosticResponse : ProxyResponse :=
  (proxySendRequest (.ok ()) diagnosticWorld
    (testRequest [] "GET" "https://tls.peet.ws/api/all" "android_chrome")).response

/-- The URL is trimmed, and the JA4 that was seen is shown. -/
theorem outbound_test_shown_ja4 : ∃ s,
    (tabMachine samplePaths).run (.init .empty ⟨false, none⟩ []) clickedTest = some s ∧
      s.proxyTestResult = .answered diagnosticResponse ∧
      diagnosticResponse.ja4 = some "t13d1516h2_8daaf6152771_02713d6af862" ∧
      ∃ w loader request,
        ShowsTest sampleUtil samplePaths w loader request diagnosticResponse := by
  obtain ⟨s, hrun⟩ : ∃ s, (tabMachine samplePaths).run (.init .empty ⟨false, none⟩ []) clickedTest
      = some s := ⟨_, rfl⟩
  have hshown : s.proxyTestResult = .answered diagnosticResponse := by
    rw [← Option.some.inj hrun]
    rfl
  have hnative : ∀ thread w, .worker thread w ∈ clickedTest →
      CallsForward sampleUtil w.native := by
    intro thread w hmem
    simp only [clickedTest, List.mem_cons, List.not_mem_nil, or_false, reduceCtorEq, false_or,
      TabEvent.worker.injEq] at hmem
    rcases hmem with ⟨-, rfl⟩ | ⟨-, rfl⟩ <;> exact diagnosticCall_forwards
  obtain ⟨_, _, w, _, shared, method, url, profile, -, -, -, -, hshows⟩ :=
    outbound_test_shown sampleUtil_lawful hnative hrun hshown
  exact ⟨s, hrun, hshown, by decide, w, shared.core.loader, _, hshows⟩

end TlsPlus
