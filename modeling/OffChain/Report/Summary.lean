import OffChain.Classification.Worker
import OffChain.Json.Printer
import OffChain.Report.Amount
import OffChain.Report.Calendar
import OffChain.Report.Table

/-!
# What the commands print

Every command prints one table, framed by empty lines; a listing of withdrawal requests can also be
printed as a document.
-/

namespace OffChain.Report

/-- A table between empty lines. -/
def framed (t : Table) : String :=
  "\n" ++ t.render ++ "\n\n"

/-- What a worker did. -/
def ofStats (stats : Classification.Stats) : String :=
  framed
    { header := ["Metric", "Value"]
      rows :=
        [["Received", Decimal.text stats.received],
          ["Classified", Decimal.text stats.classified],
          ["Skipped", Decimal.text stats.skipped], ["Failed", Decimal.text stats.failed]] }

/-- What a validator published, if anything. -/
def ofValidator (id : Nat) : Option ValidatorInfo → String
  | none => "validator #" ++ Decimal.text id ++ " has no published information\n"
  | some info =>
    framed
      { header := ["Field", "Value"]
        rows :=
          [["Validator", "#" ++ Decimal.text id], ["Name", info.name.getD "N/A"],
            ["Website", info.website.getD "N/A"], ["Contact", info.contact.getD "N/A"],
            ["Logo", info.logoUrl.getD "N/A"]] }

/-- A withdrawal request as a row. -/
def withdrawRow (request : WithdrawRequest) : List String :=
  [UInt256.toDecimal request.requestId, "#" ++ UInt256.toDecimal request.stakerId,
    amount request.amount, time request.createdTime,
    (request.withdrawTime.map time).getD "pending"]

/-- The line below a page of withdrawal requests. -/
def pageLine (page : RequestPage) : String :=
  Decimal.text page.items.length ++ " of " ++ Decimal.text page.total.toNat
    ++ " requests, first " ++ page.first.getD "-" ++ ", last " ++ page.last.getD "-"
    ++ (if page.isStart then ", at start" else "") ++ (if page.isEnd then ", at end" else "")

/-- A page of withdrawal requests as a table. -/
def ofPage (page : RequestPage) : String :=
  let table : Table :=
    { header := ["Request", "Validator", "Amount", "Created", "Withdrawn"]
      rows := page.items.map withdrawRow }
  "\n" ++ table.render ++ "\n" ++ pageLine page ++ "\n\n"

/-- A page of withdrawal requests as a document. -/
def ofPageAsJson (page : RequestPage) : String :=
  page.toJson.pretty ++ "\n"

/-- The row counts of the database at a path, and its size. -/
def ofCounts (path size : String) (counts : Store.RowCounts) : String :=
  framed
    { header := ["Metric", "Value"]
      rows :=
        [["Database Path", path], ["DB Size", size],
          ["Transactions", Decimal.text counts.transactions],
          ["Classified Calls", Decimal.text counts.classified],
          ["Accounts", Decimal.text counts.accounts],
          ["Contracts", Decimal.text counts.contracts],
          ["Withdraw Requests", Decimal.text counts.withdrawRequests]] }

end OffChain.Report
