import GlyphScript.Library.Command
import GlyphScript.Library.Grams
import GlyphScript.Library.Traces

/-!
# The library of handlers

A capability whose handler has the name of a library handler is served by it; any
other is echoed. Library handlers do not fail: a request that cannot be met is
answered by a refusal and changes nothing.
-/

namespace GlyphScript

inductive LibraryHandler where
  | kernelBoot
  | tapeBoot
  | basherRun
  | ramGet
  | ramSet
  | ramList
  | traceList
  | traceGet
  | tracePost
  | gramObserve
  | gramAnalyze
  | gramSuggest
deriving DecidableEq, Repr

namespace LibraryHandler

def all : List LibraryHandler :=
  [kernelBoot, tapeBoot, basherRun, ramGet, ramSet, ramList, traceList, traceGet, tracePost,
    gramObserve, gramAnalyze, gramSuggest]

def name : LibraryHandler → String
  | kernelBoot => "kernel_boot"
  | tapeBoot => "tape_boot"
  | basherRun => "basher_run"
  | ramGet => "ram_get"
  | ramSet => "ram_set"
  | ramList => "ram_list"
  | traceList => "cms_rlhf_list"
  | traceGet => "cms_rlhf_get"
  | tracePost => "cms_rlhf_post"
  | gramObserve => "gram_observe"
  | gramAnalyze => "gram_analyze_patterns"
  | gramSuggest => "gram_suggest_next"

def ofName? (name : String) : Option LibraryHandler :=
  all.find? fun handler => handler.name == name

/-- Serves a request that needs the text of an argument. -/
def withText (request : Request) (key missing : String)
    (serve : String → Store → Value × Store) (store : Store) : Value × Store :=
  match request.argText? key with
  | some text => serve text store
  | none => (Library.failure missing, store)

open Library

/-- The answer to a request and the store behind it. -/
def serve (handler : LibraryHandler) (request : Request) (store : Store) : Value × Store :=
  match handler with
  | kernelBoot => bootKernel store
  | tapeBoot => withText request "tape_id" "No tape_id provided" bootTape store
  | basherRun => withText request "command" "No command provided" runCommand store
  | ramGet => withText request "key" "No key provided" recallKey store
  | ramSet =>
      withText request "key" "No key provided"
        (fun key => storeKey key ((request.arg? "value").getD .null)) store
  | ramList => listMemory store
  | traceList => listTraces store
  | traceGet => findTrace (wantedTrace request) store
  | tracePost => postTrace request.body store
  | gramObserve => observe request.body store
  | gramAnalyze => analyze store
  | gramSuggest => suggest request.body store

end LibraryHandler

/-- Serves a request by the library handler of a name, or echoes it. -/
def Library.serve (name : String) (request : Request) (store : Store) : Value × Store :=
  match LibraryHandler.ofName? name with
  | some handler => handler.serve request store
  | none => (Library.echo request, store)

end GlyphScript
