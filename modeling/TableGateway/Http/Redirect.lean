import TableGateway.Http.Basic
import TableGateway.Text.Percent

namespace TableGateway

open Text

def escapeMarkup : Char → String
  | '&' => "&amp;"
  | '<' => "&lt;"
  | '>' => "&gt;"
  | '\'' => "&#39;"
  | '"' => "&#34;"
  | c => c.toString

def pathMarks : List Char :=
  "!$&'()*+,/:;=@".toList

def encodePath (path : List Char) : String :=
  String.ofList (Percent.encodeBut pathMarks path)

def HttpRequest.addressOf (r : HttpRequest) (path : List Char) : String :=
  "http://" ++ r.host ++ encodePath path ++ if r.query.isEmpty then "" else "?" ++ r.queryText

/-- The page that sends a client on to another path for good. There is none if the address spreads
over several lines, which no header can hold. -/
def HttpResponse.moved? (r : HttpRequest) (path : List Char) : Option HttpResponse :=
  let target := (r.addressOf path).toList
  let address := String.join (target.map escapeMarkup)
  if '\n' ∈ target ∨ '\r' ∈ target then none
  else some {
    status := 308
    text := "<!doctype html>\n<html lang=en>\n<title>Redirecting...</title>\n" ++
      "<h1>Redirecting...</h1>\n<p>You should be redirected automatically to the target URL: " ++
      "<a href=\"" ++ address ++ "\">" ++ address ++ "</a>. If not, click the link.\n"
    isJson := false }

end TableGateway
