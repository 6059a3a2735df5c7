import EntityModel.Driver
import EntityModel.Import

/-!
# Imports of the packages that column types come from

The import behind each package name that the type tables use. The driver decides only where `pgtype`
lives.
-/

namespace EntityModel.Import

/-- The import that a package name stands for under a driver, for the packages the type tables use. -/
def default? (driver : Driver) (qualifier : String) : Option Import :=
  match qualifier with
  | "sql" => some ⟨"database/sql", none⟩
  | "uuid" => some ⟨"github.com/google/uuid", none⟩
  | "netip" => some ⟨"net/netip", none⟩
  | "time" => some ⟨"time", none⟩
  | "json" => some ⟨"encoding/json", none⟩
  | "net" => some ⟨"net", none⟩
  | "pgtype" =>
    match driver with
    | .pgxV5 => some ⟨"github.com/jackc/pgx/v5/pgtype", none⟩
    | _ => some ⟨"github.com/jackc/pgtype", none⟩
  | "pqtype" => some ⟨"github.com/sqlc-dev/pqtype", none⟩
  | "pq" => some ⟨"github.com/lib/pq", none⟩
  | "pgvector" => some ⟨"github.com/pgvector/pgvector-go", none⟩
  | _ => none

end EntityModel.Import
