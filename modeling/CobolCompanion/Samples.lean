namespace CobolCompanion.Samples

def minimal : String :=
  "IDENTIFICATION DIVISION.\n" ++
  "PROGRAM-ID. HELLO.\n"

def full : String :=
  "IDENTIFICATION DIVISION.\n" ++
  "PROGRAM-ID. PAYROLL.\n" ++
  "ENVIRONMENT DIVISION.\n" ++
  "CONFIGURATION SECTION.\n" ++
  "DATA DIVISION.\n" ++
  "WORKING-STORAGE SECTION.\n" ++
  "01 EMPLOYEE.\n" ++
  "   05 EMP-NAME PIC X(30).\n" ++
  "   05 EMP-SALARY PIC 9(7)V99.\n" ++
  "01 TOTAL PIC 9(9)V99.\n" ++
  "PROCEDURE DIVISION.\n" ++
  "MAIN-PARA.\n" ++
  "    MOVE 0 TO TOTAL.\n" ++
  "    ADD EMP-SALARY TO TOTAL.\n" ++
  "    DISPLAY EMP-NAME.\n" ++
  "    STOP RUN.\n" ++
  "END PROGRAM PAYROLL.\n"

def nested : String :=
  "IDENTIFICATION DIVISION.\n" ++
  "PROGRAM-ID. A.\n" ++
  "PROCEDURE DIVISION.\n" ++
  "    CALL 'B'.\n" ++
  "IDENTIFICATION DIVISION.\n" ++
  "PROGRAM-ID. B.\n" ++
  "PROCEDURE DIVISION.\n" ++
  "    DISPLAY 'IN B'.\n" ++
  "END PROGRAM B.\n" ++
  "END PROGRAM A.\n"

def siblings : String :=
  "ID DIVISION.\n" ++
  "PROGRAM-ID. FIRST-PROG.\n" ++
  "END PROGRAM FIRST-PROG.\n" ++
  "ID DIVISION.\n" ++
  "PROGRAM-ID. SECOND-PROG.\n" ++
  "END PROGRAM SECOND-PROG.\n"

def misspeltDivision : String :=
  "IDENTIFICATION DIVISION. PROGRAM-ID. A. DTA DIVISION."

def orders : String :=
  "IDENTIFICATION DIVISION.\n" ++
  "PROGRAM-ID. ORDERS.\n" ++
  "DATA DIVISION.\n" ++
  "WORKING-STORAGE SECTION.\n" ++
  "01 ORDER-REC.\n" ++
  "   05 ORDER-ID PIC 9(6).\n" ++
  "   05 ORDER-STATUS PIC X.\n" ++
  "      88 ORDER-OPEN VALUE 'O'.\n" ++
  "PROCEDURE DIVISION.\n" ++
  "MAIN-PARA.\n" ++
  "    MOVE 1 TO ORDER-ID.\n" ++
  "    PERFORM SHOW-ORDER.\n" ++
  "    STOP RUN.\n" ++
  "SHOW-ORDER.\n" ++
  "    DISPLAY ORDER-ID.\n" ++
  "IDENTIFICATION DIVISION.\n" ++
  "PROGRAM-ID. HELPER.\n" ++
  "END PROGRAM HELPER.\n" ++
  "END PROGRAM ORDERS.\n"

end CobolCompanion.Samples
